import GuidelineCompliance.Main
import GuidelineCompliance.Proofs.CatalogUpdate
import GuidelineCompliance.Proofs.Evidence
import GuidelineCompliance.Proofs.Outcome
import GuidelineCompliance.Proofs.Ingestion
import GuidelineCompliance.Proofs.Groups
import GuidelineCompliance.Proofs.Headings
import GuidelineCompliance.Proofs.Plan
import GuidelineCompliance.Proofs.FaultCodes
import GuidelineCompliance.Proofs.Verdict
import GuidelineCompliance.Proofs.Disapplication
import GuidelineCompliance.Proofs.FinalStanding
import GuidelineCompliance.Proofs.InputSets
import GuidelineCompliance.Proofs.PlanLines
import GuidelineCompliance.Proofs.Protection
import GuidelineCompliance.Proofs.AuditMessages
import GuidelineCompliance.Proofs.AuditTrail
import GuidelineCompliance.Proofs.CommentLines
import GuidelineCompliance.Proofs.TagReading
import GuidelineCompliance.Proofs.FaultHistory
import GuidelineCompliance.Proofs.RunHistory
import GuidelineCompliance.Proofs.BadInputs
import GuidelineCompliance.Proofs.AuditVerdict
import GuidelineCompliance.Proofs.CheckEffects
import GuidelineCompliance.Proofs.CatalogCaching
import GuidelineCompliance.Proofs.CommentIds
import GuidelineCompliance.Proofs.LogLines
import GuidelineCompliance.Proofs.WarningLines
import GuidelineCompliance.Proofs.TagEffects
import GuidelineCompliance.Proofs.LineComments
import GuidelineCompliance.Proofs.LinkSpellings
import GuidelineCompliance.Proofs.OptionLists
import GuidelineCompliance.Proofs.SourceNames
import GuidelineCompliance.Proofs.Relocation
import GuidelineCompliance.Proofs.RuleWarnings
import GuidelineCompliance.Proofs.CodedBrackets
import GuidelineCompliance.Proofs.RepeatedQueries
import GuidelineCompliance.Proofs.OrderedComments
import GuidelineCompliance.Proofs.ReferenceLines
import GuidelineCompliance.Proofs.SummaryCounts
import GuidelineCompliance.Proofs.LogSinks
import GuidelineCompliance.Proofs.LineEndings

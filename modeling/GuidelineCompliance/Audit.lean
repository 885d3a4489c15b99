import GuidelineCompliance.Comment
import GuidelineCompliance.Summary
import GuidelineCompliance.Text.Utf8

/-! The audit log: one line for each suppression that a run has kept, and one for each comment that
is tagged as having nothing to do with the guidelines. The log is written to a sink piece by
piece. -/

namespace GuidelineCompliance

inductive Severity where
  | info
  | warning
  | error
  deriving DecidableEq, Repr

def Severity.name : Severity → String
  | info => "info"
  | warning => "warning"
  | error => "error"

structure AuditEntry where
  file : String
  line : Nat
  severity : Severity
  message : String
  deriving DecidableEq, Repr

namespace AuditEntry

def pieces (e : AuditEntry) : List String :=
  [e.file, ":", toString e.line, ": ", e.severity.name, ": ", e.message]

def text (e : AuditEntry) : String := String.join e.pieces

def violationSeverity (c : Category) : Severity := if c = .advisory then .info else .error

/-- The message on a suppression of a guideline of a category, if there is one. A violation of a
disapplied guideline is none. -/
def finding? (s : Suppression) (c : Category) : Option (Severity × String) :=
  let subject := s.guideline ++ " (" ++ c.name ++ ")"
  if s.mark.isFalsePositive then
    some (.info, "Suppression of " ++ subject ++ " tagged as false positive")
  else if s.mark.isDeviation then some (.info, "Deviation of " ++ subject)
  else if c = .disapplied then none
  else some (violationSeverity c, "Violation of " ++ subject)

def nonMisraFinding (tool : String) (guidelines : List String) : Severity × String :=
  let message := "Tool suppression comment tagged as not MISRA relevant"
  if guidelines.isEmpty then (.info, message)
  else
    (.warning, message ++ ", but " ++ tool ++ " indicates that this comment suppresses " ++
      Summary.joinList guidelines)

/-- The entries of a comment. A guideline that is not in the catalog has category unknown. -/
def ofComment (tool : String) (catalog : Catalog) (c : Comment) : List AuditEntry :=
  let findings :=
    if c.isNonMisra then [nonMisraFinding tool c.guidelines]
    else c.suppressions.filterMap fun s =>
      finding? s (((catalog.get? s.guideline).map Guideline.activeCategory).getD .unknown)
  findings.map fun (severity, message) => { file := c.file, line := c.line, severity, message }

def ofComments (tool : String) (catalog : Catalog) (cs : List Comment) : List AuditEntry :=
  cs.flatMap (ofComment tool catalog)

/-- The pieces in which a whole log is written. A line feed ends each entry. -/
def logPieces (entries : List AuditEntry) : List String :=
  entries.flatMap fun e => e.pieces ++ ["\n"]

def log (entries : List AuditEntry) : String := String.join (logPieces entries)

end AuditEntry

/-- Something to write to. It takes a limited number of octets, if it has a limit, and one call may
take only a part of what it is offered. -/
structure Sink where
  taken : Text.Octets := []
  room : Option Nat := none
  /-- How many octets a call would take, by what was taken up to then and what is offered. -/
  portion : Text.Octets → Text.Octets → Nat := fun _ offered => offered.length

namespace Sink

def admitted (s : Sink) (octets : Text.Octets) : Text.Octets :=
  (s.room.map fun n => octets.take n).getD octets

/-- How many octets a call takes of those that it is offered: at least one, if there is room. -/
def accepted (s : Sink) (offered : Text.Octets) : Nat :=
  min (max 1 (s.portion s.taken offered)) (s.admitted offered).length

def take (s : Sink) (octets : Text.Octets) : Sink :=
  { s with taken := s.taken ++ octets, room := s.room.map (· - octets.length) }

/-- Offer octets, call after call, and tell whether all of them were taken. -/
def writeOctets (s : Sink) (octets : Text.Octets) : Sink × Bool :=
  if octets = [] then (s, true)
  else
    let n := s.accepted octets
    if n = 0 then (s, false)
    else (s.take (octets.take n)).writeOctets (octets.drop n)
termination_by octets.length
decreasing_by
  rename_i some _
  have positive := List.length_pos_iff.mpr some
  rw [List.length_drop]
  omega

def write (s : Sink) (piece : String) : Sink × Bool := s.writeOctets (Text.Octets.ofText piece)

/-- Write pieces up to the first that is not taken. -/
def writeAll (s : Sink) : List String → Sink × Bool
  | [] => (s, true)
  | piece :: pieces =>
    match s.write piece with
    | (s, true) => s.writeAll pieces
    | (s, false) => (s, false)

end Sink

end GuidelineCompliance

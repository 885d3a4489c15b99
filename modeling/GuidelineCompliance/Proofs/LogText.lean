import GuidelineCompliance.Proofs.AuditMessages
import GuidelineCompliance.Proofs.FileTrees

/-! The text of an audit log. It is the texts of the entries in order, each with a line feed behind
it, so the entries are its lines as long as no guideline id has a line feed in it. -/

namespace GuidelineCompliance

namespace Text

def IsLine (s : String) : Prop := '\n' ∉ s.toList

instance (s : String) : Decidable (IsLine s) := inferInstanceAs (Decidable ('\n' ∉ s.toList))

@[simp] theorem isLine_append {s t : String} : IsLine (s ++ t) ↔ IsLine s ∧ IsLine t := by
  simp [IsLine]

theorem not_mem_repr {x : Char} (h : x.isDigit = false) (n : Nat) : x ∉ n.repr.toList := by
  intro mem
  rw [Nat.toList_repr] at mem
  have digit := Nat.isDigit_of_mem_toDigits (by decide) (by decide) mem
  rw [h] at digit
  cases digit

@[simp] theorem isLine_repr (n : Nat) : IsLine n.repr := not_mem_repr (by decide) n

theorem split_join_iff (texts : List String) :
    split '\n' (String.join (texts.map (· ++ "\n"))) = texts ++ [""] ↔ ∀ t ∈ texts, IsLine t := by
  constructor
  · intro pieces t ht
    have mem : t ∈ split '\n' (String.join (texts.map (· ++ "\n"))) :=
      pieces ▸ List.mem_append_left _ ht
    obtain ⟨piece, hpiece, rfl⟩ := List.mem_map.mp mem
    rw [IsLine, String.toList_ofList]
    exact not_mem_of_mem_splitOn hpiece
  · intro lines
    induction texts with
    | nil => rfl
    | cons t texts ih =>
      obtain ⟨line, lines⟩ := List.forall_mem_cons.mp lines
      have rest := ih lines
      rw [split] at rest ⊢
      have chars : (String.join ((t :: texts).map (· ++ "\n"))).toList =
          t.toList ++ '\n' :: (String.join (texts.map (· ++ "\n"))).toList := by
        simp [String.join_cons]
      rw [chars, splitOn_append_cons line, List.map_cons, rest, String.ofList_toList]
      rfl

end Text

open Text

theorem Severity.isLine_name (s : Severity) : IsLine s.name := by
  cases s <;> decide

theorem Category.isLine_name (c : Category) : IsLine c.name := by
  cases c <;> decide

theorem Summary.not_mem_joinList_iff {x : Char} (conj : x ∉ " and ".toList)
    (comma : x ∉ ", ".toList) (items : List String) :
    x ∉ (joinList items).toList ↔ ∀ item ∈ items, x ∉ item.toList := by
  fun_induction joinList items with
  | case1 => simp
  | case2 a => simp
  | case3 a b =>
    simp only [String.toList_append, List.mem_append, conj, or_false, not_or]
    simp
  | case4 a b c items ih =>
    simp only [String.toList_append, List.mem_append, comma, or_false, not_or, ih,
      List.forall_mem_cons]

theorem Summary.isLine_joinList_iff (items : List String) :
    IsLine (joinList items) ↔ ∀ item ∈ items, IsLine item :=
  not_mem_joinList_iff (by decide) (by decide) items

namespace AuditEntry

theorem log_eq_join (es : List AuditEntry) : log es = String.join (es.map (·.text ++ "\n")) := by
  induction es with
  | nil => rfl
  | cons e es ih =>
    rw [log] at ih ⊢
    rw [logPieces, List.flatMap_cons, ← logPieces, String.join_append, ih, String.join_append,
      List.map_cons, String.join_cons, text]
    simp

theorem isLine_text_iff (e : AuditEntry) : IsLine e.text ↔ IsLine e.file ∧ IsLine e.message := by
  have colon : IsLine ":" := by decide
  have gap : IsLine ": " := by decide
  simp [text, pieces, String.join_cons, colon, gap, Severity.isLine_name]

theorem isLine_message_iff {s : Suppression} {c : Category} {message : String}
    (h : (finding? s c).map Prod.snd = some message) : IsLine message ↔ IsLine s.guideline := by
  have subject : IsLine (subject s.guideline c) ↔ IsLine s.guideline := by
    have opened : IsLine " (" := by decide
    have closed : IsLine ")" := by decide
    simp [AuditEntry.subject, opened, closed, c.isLine_name]
  have violation : IsLine "Violation of " := by decide
  have deviation : IsLine "Deviation of " := by decide
  have suppression : IsLine "Suppression of " := by decide
  have tagged : IsLine " tagged as false positive" := by decide
  rw [finding?_map_snd] at h
  split at h
  · cases h
    unfold falsePositiveMessage
    simp [suppression, tagged, subject]
  · cases h
    unfold deviationMessage
    simp [deviation, subject]
  · split at h
    · cases h
    · cases h
      unfold violationMessage
      simp [violation, subject]

theorem isLine_nonMisraFinding_iff {tool : String} (named : IsLine tool) (ids : List String) :
    IsLine (nonMisraFinding tool ids).2 ↔ ∀ id ∈ ids, IsLine id := by
  have tagged : IsLine "Tool suppression comment tagged as not MISRA relevant" := by decide
  have but : IsLine "Tool suppression comment tagged as not MISRA relevant, but " := by decide
  have indicates : IsLine " indicates that this comment suppresses " := by decide
  cases ids with
  | nil => simp [nonMisraFinding, tagged]
  | cons id ids => simp [nonMisraFinding, but, indicates, named, Summary.isLine_joinList_iff]

end AuditEntry

def Comment.shown (catalog : Catalog) (c : Comment) : List String :=
  if c.isNonMisra then c.guidelines
  else (c.suppressions.filter fun s =>
    (AuditEntry.finding? s (catalog.categoryOf s.guideline)).isSome).map Suppression.guideline

namespace AuditEntry

variable {tool : String} {catalog : Catalog}

theorem isLine_messages_iff (named : IsLine tool) (k : Comment) :
    (∀ m ∈ messages (ofComment tool catalog k), IsLine m) ↔
      ∀ id ∈ k.shown catalog, IsLine id := by
  rw [messages_ofComment, Comment.shown]
  cases k.isNonMisra with
  | true => simp [isLine_nonMisraFinding_iff named]
  | false =>
    simp only [Bool.false_eq_true, if_false, List.mem_filterMap, List.mem_map, List.mem_filter]
    constructor
    · rintro lines id ⟨s, ⟨hs, found⟩, rfl⟩
      obtain ⟨finding, hf⟩ := Option.isSome_iff_exists.mp found
      have message :
          (finding? s (catalog.categoryOf s.guideline)).map Prod.snd = some finding.2 := by
        rw [hf]
        rfl
      exact (isLine_message_iff message).mp (lines _ ⟨s, hs, message⟩)
    · rintro lines m ⟨s, hs, message⟩
      obtain ⟨finding, hf, -⟩ := Option.map_eq_some_iff.mp message
      exact (isLine_message_iff message).mpr (lines _ ⟨s, ⟨hs, by rw [hf]; rfl⟩, rfl⟩)

theorem isLine_ofComments_iff (named : IsLine tool) {cs : List Comment}
    (files : ∀ k ∈ cs, IsLine k.file) :
    (∀ e ∈ ofComments tool catalog cs, IsLine e.text) ↔
      ∀ k ∈ cs, ∀ id ∈ k.shown catalog, IsLine id := by
  have each (k : Comment) (hk : k ∈ cs) : (∀ e ∈ ofComment tool catalog k, IsLine e.text) ↔
      ∀ id ∈ k.shown catalog, IsLine id := by
    rw [← isLine_messages_iff named, messages, List.forall_mem_map]
    refine forall₂_congr fun e he => ?_
    obtain ⟨finding, -, rfl⟩ := List.mem_map.mp he
    exact (isLine_text_iff _).trans (and_iff_right (files k hk))
  rw [ofComments, List.forall_mem_flatMap]
  exact forall₂_congr each

end AuditEntry

theorem Assessment.split_auditLog_iff {a : Assessment} (named : IsLine a.tool)
    (files : ∀ k ∈ a.comments, IsLine k.file) :
    split '\n' a.auditLog = a.auditEntries.map AuditEntry.text ++ [""] ↔
      ∀ k ∈ a.comments, ∀ id ∈ k.shown a.catalog, IsLine id := by
  have texts : a.auditLog = String.join ((a.auditEntries.map AuditEntry.text).map (· ++ "\n")) := by
    rw [auditLog, AuditEntry.log_eq_join, List.map_map]
    rfl
  rw [texts, split_join_iff, List.forall_mem_map]
  exact AuditEntry.isLine_ofComments_iff named files

end GuidelineCompliance

import GuidelineCompliance.Proofs.Numerals
import GuidelineCompliance.Proofs.SummarySentences
import GuidelineCompliance.Proofs.WordRuns

/-! What can be read back from a summary. Every count that it gives ends at the first space behind
it, and the word for its category begins with a letter of its own, so the text of a summary tells
how many guidelines there are in each counted category. -/

namespace GuidelineCompliance

namespace Summary

open Pattern (Apart)
open Text

def words : List String := counted.map Prod.snd

theorem apart_words : Apart words := by decide

/-- The counts that a sentence gives, each with the word for its category. -/
def tally (c : Catalog) (status : Status) : List (String × Nat) :=
  counted.filterMap fun (category, word) =>
    let n := count c status category
    if n = 0 then none else some (word, n)

def entryText (entry : String × Nat) : String := countText entry.2 entry.1

theorem parts_eq_map_tally (c : Catalog) (status : Status) :
    parts c status = (tally c status).map entryText := by
  rw [parts, tally, List.map_filterMap]
  refine List.filterMap_congr fun entry _ => ?_
  obtain ⟨category, word⟩ := entry
  by_cases empty : count c status category = 0 <;> simp [empty, entryText]

theorem mem_tally_iff {c : Catalog} {status : Status} {word : String} {n : Nat} :
    (word, n) ∈ tally c status ↔
      n ≠ 0 ∧ ∃ category, (category, word) ∈ counted ∧ count c status category = n := by
  rw [tally, List.mem_filterMap]
  constructor
  · rintro ⟨⟨category, word'⟩, mem, nonempty⟩
    simp only at nonempty
    split at nonempty
    · cases nonempty
    · rename_i positive
      cases nonempty
      exact ⟨positive, category, mem, rfl⟩
  · rintro ⟨positive, category, mem, rfl⟩
    exact ⟨(category, word), mem, if_neg positive⟩

theorem count_eq_countP (c : Catalog) (status : Status) (category : Category) :
    count c status category =
      c.guidelines.countP fun g => g.status = status ∧ g.activeCategory = category := by
  simp only [count, Bool.decide_and]

theorem mem_words_of_mem_tally {c : Catalog} {status : Status} {entry : String × Nat}
    (h : entry ∈ tally c status) : entry.1 ∈ words := by
  obtain ⟨-, category, mem, -⟩ := mem_tally_iff.mp h
  exact List.mem_map_of_mem mem

theorem count_eq_of_tally_eq {c d : Catalog} {status : Status} (h : tally c status = tally d status)
    {category : Category} (counts : category ∈ counted.map Prod.fst) :
    count c status category = count d status category := by
  have distinct : ∀ x ∈ counted, ∀ y ∈ counted, x.2 = y.2 → x.1 = y.1 := by decide
  obtain ⟨⟨category, word⟩, mem, rfl⟩ := List.mem_map.mp counts
  have given {c d : Catalog} (h : tally c status = tally d status)
      (positive : count c status category ≠ 0) :
      count d status category = count c status category := by
    have listed := h ▸ mem_tally_iff.mpr ⟨positive, category, mem, rfl⟩
    obtain ⟨-, category', mem', same⟩ := mem_tally_iff.mp listed
    obtain rfl : category' = category := distinct _ mem' _ mem rfl
    exact same
  by_cases positive : count c status category = 0
  · by_contra other
    exact other (given h.symm fun empty => other (positive.trans empty.symm))
  · exact (given h positive).symm

theorem toList_entryText (word : String) (n : Nat) : (entryText (word, n)).toList =
    (toString n).toList ++ ' ' :: (word.toList ++
      (if n = 1 then " guideline" else " guidelines").toList) := by
  simp [entryText, countText]

theorem eq_of_entryText_append {x y : String × Nat} (hx : x.1 ∈ words) (hy : y.1 ∈ words)
    {as bs : List Char} (h : (entryText x).toList ++ as = (entryText y).toList ++ bs) :
    x = y ∧ as = bs := by
  obtain ⟨w, n⟩ := x
  obtain ⟨v, m⟩ := y
  have space (n : Nat) : ' ' ∉ (toString n).toList := not_mem_repr (by decide) n
  rw [toList_entryText, toList_entryText, List.append_assoc, List.append_assoc] at h
  have digits : (toString n).toList = (toString m).toList :=
    eq_of_prefix_append_cons (space n) (space m) ⟨_, by simpa using h⟩
  obtain rfl : n = m := by rw [← digitsValue_toString n, digits, digitsValue_toString]
  have behind := List.append_cancel_left h
  rw [List.cons_append, List.cons_append, List.cons.injEq, List.append_assoc,
    List.append_assoc] at behind
  obtain rfl : w = v := apart_words.eq_of_prefix hx hy ⟨_, rfl⟩ ⟨_, behind.2.symm⟩
  exact ⟨rfl, List.append_cancel_left (List.append_cancel_left behind.2)⟩

def joint : List String → String
  | [] => ""
  | [_] => " and "
  | _ => ", "

theorem joinList_cons (item : String) (items : List String) :
    joinList (item :: items) = item ++ joint items ++ joinList items := by
  match items with
  | [] => simp [joinList, joint]
  | [_] => rfl
  | _ :: _ :: _ => rfl

theorem joinList_cons_ne_empty (entry : String × Nat) (items : List String) :
    joinList (entryText entry :: items) ≠ "" := by
  rw [joinList_cons, entryText, countText]
  simp

/-- The joint tells whether there is one more item, or more than one. -/
theorem joinList_eq_of_joint_append_eq {xs ys : List String}
    (h : joint xs ++ joinList xs = joint ys ++ joinList ys) : joinList xs = joinList ys := by
  match xs, ys with
  | [], [] => rfl
  | [], [_] => simp [joint, joinList, ← String.toList_inj] at h
  | [], _ :: _ :: _ => simp [joint, joinList, ← String.toList_inj] at h
  | [_], [] => simp [joint, joinList, ← String.toList_inj] at h
  | _ :: _ :: _, [] => simp [joint, joinList, ← String.toList_inj] at h
  | [_], [_] => simpa [joint, joinList, ← String.toList_inj] using h
  | [_], _ :: _ :: _ => simp [joint, ← String.toList_inj] at h
  | _ :: _ :: _, [_] => simp [joint, ← String.toList_inj] at h
  | _ :: _ :: _, _ :: _ :: _ => simpa [joint, ← String.toList_inj] using h

theorem eq_of_joinList_eq {xs ys : List (String × Nat)} (hx : ∀ x ∈ xs, x.1 ∈ words)
    (hy : ∀ y ∈ ys, y.1 ∈ words)
    (h : joinList (xs.map entryText) = joinList (ys.map entryText)) : xs = ys := by
  induction xs generalizing ys with
  | nil =>
    cases ys with
    | nil => rfl
    | cons y ys => exact absurd h.symm (joinList_cons_ne_empty y _)
  | cons x xs ih =>
    cases ys with
    | nil => exact absurd h (joinList_cons_ne_empty x _)
    | cons y ys =>
      obtain ⟨hx, hxs⟩ := List.forall_mem_cons.mp hx
      obtain ⟨hy, hys⟩ := List.forall_mem_cons.mp hy
      rw [List.map_cons, List.map_cons, joinList_cons, joinList_cons, String.append_assoc,
        String.append_assoc, ← String.toList_inj, String.toList_append,
        @String.toList_append (entryText y)] at h
      -- The joint behind the first entries tells whether there is one more, or more than one.
      obtain ⟨rfl, later⟩ := eq_of_entryText_append hx hy h
      rw [String.toList_inj] at later
      rw [ih hxs hys (joinList_eq_of_joint_append_eq later)]

variable {c d : Catalog} {status : Status} {noun : String}

theorem parts_eq_nil_of_sentence_eq (h : noun ∈ nouns)
    (same : sentence c status noun = sentence d status noun) (empty : parts c status = []) :
    parts d status = [] := by
  obtain ⟨as, hc⟩ := exists_tail c status h
  obtain ⟨bs, hd⟩ := exists_tail d status h
  have tails : as = bs := by simpa [hc.text, hd.text] using congrArg String.toList same
  have denies : denial noun <+: bs ++ [] := by
    rw [← hc.denies empty, tails]
    exact List.prefix_append bs []
  exact (hd.of_prefix h h denies).2

theorem tally_eq_of_sentence_eq (h : noun ∈ nouns)
    (same : sentence c status noun = sentence d status noun) :
    tally c status = tally d status := by
  refine eq_of_joinList_eq (fun _ => mem_words_of_mem_tally) (fun _ => mem_words_of_mem_tally) ?_
  rw [← parts_eq_map_tally, ← parts_eq_map_tally]
  by_cases empty : parts c status = []
  · rw [empty, parts_eq_nil_of_sentence_eq h same empty]
  · have nonempty : parts d status ≠ [] := mt (parts_eq_nil_of_sentence_eq h same.symm) empty
    rw [sentence_eq, sentence_eq, if_neg (by simpa using empty),
      if_neg (by simpa using nonempty)] at same
    simpa [← String.toList_inj] using same

theorem sentence_congr (noun : String) (h : ∀ category ∈ counted.map Prod.fst,
    count c status category = count d status category) :
    sentence c status noun = sentence d status noun := by
  have tallies : tally c status = tally d status :=
    List.filterMap_congr fun entry mem => by simp only [h entry.1 (List.mem_map_of_mem mem)]
  rw [sentence_eq, sentence_eq, parts_eq_map_tally, parts_eq_map_tally, tallies]

/-- Two summaries are the same exactly if they are of as many guidelines with violations, and of as
many with deviations, in each of the counted categories. -/
theorem summary_eq_iff (c d : Catalog) :
    c.summary = d.summary ↔ ∀ status ∈ [Status.violations, .deviations],
      ∀ category ∈ [Category.mandatory, .required, .advisory],
        c.guidelines.countP (fun g => g.status = status ∧ g.activeCategory = category) =
          d.guidelines.countP (fun g => g.status = status ∧ g.activeCategory = category) := by
  simp only [← count_eq_countP]
  rw [List.forall_mem_cons, List.forall_mem_singleton]
  constructor
  · intro same
    obtain ⟨as, bs, hv, hd, text⟩ := exists_tails c
    obtain ⟨as', bs', hv', hd', text'⟩ := exists_tails d
    obtain ⟨first, rfl⟩ := eq_of_append_cons_eq (text.symm.trans (same ▸ text')) hd.lower hd'.lower
    obtain rfl : as = as' := by simpa using first
    have violations : sentence c .violations "violations" = sentence d .violations "violations" :=
      String.toList_inj.mp (hv.text.trans hv'.text.symm)
    have deviations : sentence c .deviations "deviations" = sentence d .deviations "deviations" :=
      String.toList_inj.mp (hd.text.trans hd'.text.symm)
    refine ⟨fun _ counts => ?_, fun _ counts => ?_⟩
    · exact count_eq_of_tally_eq (tally_eq_of_sentence_eq (by decide) violations) counts
    · exact count_eq_of_tally_eq (tally_eq_of_sentence_eq (by decide) deviations) counts
  · rintro ⟨violations, deviations⟩
    rw [Catalog.summary, Catalog.summary, sentence_congr _ violations, sentence_congr _ deviations]

end Summary

end GuidelineCompliance

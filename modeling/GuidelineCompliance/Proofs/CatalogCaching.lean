import GuidelineCompliance.Proofs.Headings
import GuidelineCompliance.Reference

/-! What a catalog cache answers. It answers as the references themselves do, whatever has become
of the catalogs that it handed out, and it asks for the document of an edition until one reading
has succeeded. -/

namespace GuidelineCompliance

namespace CatalogCache

/-- What is asked of a cache, and what is done meanwhile to a catalog that it has handed out. -/
inductive Request where
  | catalog (e : Edition)
  | load (e : Edition)
  | text (e : Edition)
  | change (i : Nat) (f : Catalog → Catalog)

inductive Answer where
  | catalog (c : Except ReferenceError Catalog)
  | text (t : Except ReferenceError String)
  | changed

inductive Answer.Failed : Answer → Prop where
  | catalog (e : ReferenceError) : Failed (.catalog (.error e))
  | text (e : ReferenceError) : Failed (.text (.error e))

/-- A cache and the catalogs that it has handed out, as they have become. -/
structure Session where
  cache : CatalogCache := {}
  held : List Catalog := []

namespace Session

def handOut (s : Session) : Except ReferenceError Catalog × CatalogCache → Answer × Session
  | (c, cache) => (.catalog c, ⟨cache, s.held ++ c.toOption.toList⟩)

def serve (r : References) (s : Session) : Request → Answer × Session
  | .catalog e => s.handOut (s.cache.catalog r e)
  | .load e => s.handOut (s.cache.load r e)
  | .text e =>
    let (t, cache) := s.cache.text r e
    (.text t, { s with cache })
  | .change i f => (.changed, { s with held := s.held.modify i f })

def serveAll (r : References) : Session → List Request → List Answer × Session
  | s, [] => ([], s)
  | s, q :: qs =>
    let (answer, s) := s.serve r q
    let (answers, s) := s.serveAll r qs
    (answer :: answers, s)

end Session

end CatalogCache

open CatalogCache

def References.answer (r : References) : Request → Answer
  | .catalog e => .catalog (r.catalog e)
  | .load e => .catalog (r.catalog e)
  | .text e => .text (r e)
  | .change _ _ => .changed

theorem References.exists_text_of_answer {r : References} {q : Request} {c : Catalog}
    (h : r.answer q = .catalog (.ok c)) : ∃ text, c = .ofReference text := by
  have read {e : Edition} (had : r.catalog e = .ok c) : ∃ text, c = .ofReference text := by
    unfold References.catalog at had
    cases document : r e with
    | ok text =>
      rw [document] at had
      exact ⟨text, (Except.ok.inj had).symm⟩
    | error f =>
      rw [document] at had
      cases had
  cases q with
  | catalog e => exact read (Answer.catalog.inj h)
  | load e => exact read (Answer.catalog.inj h)
  | text e => cases h
  | change i f => cases h

namespace CatalogCache

/-- A cache holds the catalogs that it was asked for, as far as they can be had, and no others. -/
def Faithful (r : References) (asked : List Request) (cache : CatalogCache) : Prop :=
  ∀ e c, cache.catalogs.lookup e = some c ↔ .catalog e ∈ asked ∧ r.catalog e = .ok c

theorem faithful_empty (r : References) : Faithful r [] {} := by
  intro e c
  simp

section Step

variable {r : References} {asked : List Request} {cache : CatalogCache} {e : Edition}

theorem catalog_of_hit {c : Catalog} (hit : cache.catalogs.lookup e = some c) :
    cache.catalog r e = (.ok c, cache) := by
  rw [catalog, hit]

theorem catalog_of_miss (miss : cache.catalogs.lookup e = none) :
    cache.catalog r e = (r.catalog e, ⟨match r.catalog e with
      | .ok c => (e, c) :: cache.catalogs
      | .error _ => cache.catalogs, e :: cache.reads⟩) := by
  rw [catalog, miss]
  simp only [load, text, References.catalog]
  cases r e <;> rfl

theorem Faithful.append {q : Request} (h : Faithful r asked cache)
    (other : ∀ e, q ≠ .catalog e) (reads : List Edition) :
    Faithful r (asked ++ [q]) ⟨cache.catalogs, reads⟩ := by
  intro e c
  have new : Request.catalog e ≠ q := (other e).symm
  simp [h e c, new]

theorem Faithful.catalog_fst (h : Faithful r asked cache) :
    (cache.catalog r e).1 = r.catalog e := by
  cases found : cache.catalogs.lookup e with
  | some c => rw [catalog_of_hit found, ((h e c).mp found).2]
  | none => rw [catalog_of_miss found]

theorem Faithful.catalog_snd (h : Faithful r asked cache) :
    Faithful r (asked ++ [.catalog e]) (cache.catalog r e).2 := by
  intro e' c
  cases found : cache.catalogs.lookup e with
  | some c' =>
    have before := (h e c').mp found
    rw [catalog_of_hit found, h e' c]
    by_cases same : e' = e
    · simp [same, before]
    · simp [same]
  | none =>
    rw [catalog_of_miss found]
    by_cases same : e' = e
    · subst same
      cases had : r.catalog e' with
      | ok c' => simp
      | error f => simp [found]
    · cases had : r.catalog e with
      | ok c' =>
        rw [List.lookup_cons, beq_false_of_ne same, h e' c]
        simp [same]
      | error f =>
        rw [h e' c]
        simp [same]

end Step

namespace Session

variable {r : References} {asked : List Request} {s : Session}

theorem serve_eq_answer (h : Faithful r asked s.cache) (q : Request) :
    (s.serve r q).1 = r.answer q ∧ Faithful r (asked ++ [q]) (s.serve r q).2.cache := by
  cases q with
  | catalog e => exact ⟨congrArg Answer.catalog h.catalog_fst, h.catalog_snd⟩
  | load e => exact ⟨rfl, h.append (fun _ other => by cases other) _⟩
  | text e => exact ⟨rfl, h.append (fun _ other => by cases other) _⟩
  | change i f => exact ⟨rfl, h.append (fun _ other => by cases other) _⟩

theorem serveAll_eq_answers (h : Faithful r asked s.cache) (qs : List Request) :
    (s.serveAll r qs).1 = qs.map r.answer ∧ Faithful r (asked ++ qs) (s.serveAll r qs).2.cache := by
  induction qs generalizing s asked with
  | nil => exact ⟨rfl, by rw [List.append_nil]; exact h⟩
  | cons q qs ih =>
    obtain ⟨first, faithful⟩ := serve_eq_answer h q
    obtain ⟨rest, last⟩ := ih faithful
    refine ⟨congrArg₂ List.cons first rest, ?_⟩
    rw [List.append_cons]
    exact last

/-- An edition's catalog was asked for among some requests, and it was handed out. -/
def Had (e : Edition) (qs : List Request) (answers : List Answer) : Prop :=
  ∃ c, (Request.catalog e, Answer.catalog (.ok c)) ∈ qs.zip answers

theorem had_answers_iff {e : Edition} {qs : List Request} :
    Had e qs (qs.map r.answer) ↔ ∃ c, .catalog e ∈ qs ∧ r.catalog e = .ok c := by
  apply exists_congr
  intro c
  rw [← List.map_prod_left_eq_zip, List.mem_map]
  constructor
  · rintro ⟨q, mem, same⟩
    obtain ⟨rfl, answered⟩ := Prod.mk.inj same
    exact ⟨mem, Answer.catalog.inj answered⟩
  · rintro ⟨mem, had⟩
    exact ⟨.catalog e, mem, by rw [References.answer, had]⟩

theorem reads_serve_catalog (s : Session) (e : Edition) :
    (s.serve r (.catalog e)).2.cache.reads =
      if (s.cache.catalogs.lookup e).isSome then s.cache.reads else e :: s.cache.reads := by
  cases found : s.cache.catalogs.lookup e with
  | some c => simp [serve, handOut, catalog_of_hit found]
  | none => simp [serve, handOut, catalog_of_miss found]

theorem isSome_lookup_iff_had {e : Edition} {qs : List Request} (h : Faithful r qs s.cache) :
    (s.cache.catalogs.lookup e).isSome = true ↔ Had e qs (qs.map r.answer) := by
  rw [had_answers_iff, Option.isSome_iff_exists]
  exact exists_congr (h e)

theorem catalogs_serve_of_failed {q : Request} (failed : (s.serve r q).1.Failed) :
    (s.serve r q).2.cache.catalogs = s.cache.catalogs := by
  cases q with
  | catalog e =>
    cases found : s.cache.catalogs.lookup e with
    | some c => simp [serve, handOut, catalog_of_hit found]
    | none =>
      simp only [serve, handOut, catalog_of_miss found] at failed ⊢
      generalize r.catalog e = answer at failed
      cases failed
      rfl
  | load e => rfl
  | text e => rfl
  | change i f => rfl

theorem answer_serve (r : References) (earlier : List Request) (q : Request) :
    let answers := (serveAll r {} earlier).1
    let before := (serveAll r {} earlier).2
    let answer := (before.serve r q).1
    let after := (before.serve r q).2
    answers = earlier.map r.answer ∧ answer = r.answer q ∧
      (∀ c, answer = .catalog (.ok c) → ∀ g ∈ c.guidelines, g.standing = {}) ∧
      (∀ e, q = .catalog e →
        (Had e earlier answers → after.cache.reads = before.cache.reads) ∧
        (¬ Had e earlier answers → after.cache.reads = e :: before.cache.reads)) ∧
      (answer.Failed → after.cache.catalogs = before.cache.catalogs) := by
  intro answers before answer after
  have start : Faithful r [] ({} : Session).cache := faithful_empty r
  obtain ⟨all, faithful⟩ : answers = earlier.map r.answer ∧ Faithful r earlier before.cache :=
    serveAll_eq_answers start earlier
  obtain ⟨one, -⟩ := serve_eq_answer faithful q
  refine ⟨all, one, fun c handed g hg => ?_, fun e same => ?_, catalogs_serve_of_failed⟩
  · obtain ⟨text, rfl⟩ := References.exists_text_of_answer (one.symm.trans handed)
    exact Catalog.standing_of_mem_ofReference hg
  · subst same
    have reads : after.cache.reads = _ := reads_serve_catalog before e
    rw [all, ← isSome_lookup_iff_had faithful, reads]
    exact ⟨fun had => if_pos had, fun absent => if_neg absent⟩

end Session

end CatalogCache

end GuidelineCompliance

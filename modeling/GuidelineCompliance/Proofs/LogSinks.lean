import GuidelineCompliance.Proofs.Headings
import GuidelineCompliance.Proofs.LogText

/-! Sinks for the log. In however many calls a sink takes what it is offered, it ends with as much
of it as it has room for, so a log that is cut short is a beginning of the whole one. -/

namespace GuidelineCompliance

open Text (Octets)

theorem Text.ofText_append (s t : String) : Octets.ofText (s ++ t) = .ofText s ++ .ofText t := by
  simp [Octets.ofText, Utf8.encode]

namespace Sink

def fits (s : Sink) (octets : Octets) : Bool := s.room.all (octets.length ≤ ·)

def after (s : Sink) (octets : Octets) : Sink :=
  { s with taken := s.taken ++ s.admitted octets, room := s.room.map (· - octets.length) }

variable {s : Sink}

theorem admitted_of_fits {octets : Octets} (h : s.fits octets = true) :
    s.admitted octets = octets := by
  obtain ⟨taken, room, portion⟩ := s
  cases room with
  | none => rfl
  | some n => exact List.take_of_length_le (by simpa [fits] using h)

theorem after_of_fits {octets : Octets} (h : s.fits octets = true) :
    s.after octets = s.take octets := by
  rw [after, take, admitted_of_fits h]

theorem fits_nil (s : Sink) : s.fits [] = true := by simp [fits]

theorem after_nil (s : Sink) : s.after [] = s := by
  obtain ⟨taken, room, portion⟩ := s
  cases room <;> simp [after, admitted]

theorem after_append (s : Sink) (xs ys : Octets) : s.after (xs ++ ys) = (s.after xs).after ys := by
  obtain ⟨taken, room, portion⟩ := s
  cases room with
  | none => simp [after, admitted]
  | some n => simp [after, admitted, List.take_append, Nat.sub_sub]

theorem fits_append (s : Sink) (xs ys : Octets) :
    s.fits (xs ++ ys) = (s.fits xs && (s.after xs).fits ys) := by
  obtain ⟨taken, room, portion⟩ := s
  cases room with
  | none => rfl
  | some n =>
    rw [Bool.eq_iff_iff]
    simp only [fits, after, Option.map_some, Option.all_some, decide_eq_true_eq, Bool.and_eq_true,
      List.length_append]
    omega

theorem after_append_of_not_fits {xs : Octets} (h : s.fits xs = false) (ys : Octets) :
    s.after (xs ++ ys) = s.after xs := by
  obtain ⟨taken, room, portion⟩ := s
  cases room with
  | none => cases h
  | some n =>
    have short : n - xs.length = 0 := by
      simp only [fits, Option.all_some, decide_eq_false_iff_not] at h
      omega
    rw [after_append]
    simp [after, admitted, short]

theorem fits_take_accepted (s : Sink) (octets : Octets) :
    s.fits (octets.take (s.accepted octets)) = true := by
  obtain ⟨taken, room, portion⟩ := s
  cases room with
  | none => rfl
  | some n =>
    simp only [fits, accepted, admitted, Option.map_some, Option.getD_some, Option.all_some,
      List.length_take, decide_eq_true_eq]
    omega

theorem fits_eq_false_of_accepted {octets : Octets} (nonempty : octets ≠ [])
    (empty : s.accepted octets = 0) : s.fits octets = false ∧ s.after octets = s := by
  have length := List.length_pos_iff.mpr nonempty
  obtain ⟨taken, room, portion⟩ := s
  cases room with
  | none =>
    simp only [accepted, admitted, Option.map_none, Option.getD_none] at empty
    omega
  | some n =>
    simp only [accepted, admitted, Option.map_some, Option.getD_some, List.length_take] at empty
    obtain rfl : n = 0 := by omega
    simp [fits, after, admitted, nonempty]

/-- However much each call takes, the sink ends with what it has room for. -/
theorem writeOctets_eq (s : Sink) (octets : Octets) :
    s.writeOctets octets = (s.after octets, s.fits octets) := by
  fun_induction writeOctets s octets with
  | case1 s => rw [after_nil, fits_nil]
  | case2 s octets nonempty n stuck =>
    obtain ⟨full, same⟩ := fits_eq_false_of_accepted nonempty stuck
    rw [same, full]
  | case3 s octets nonempty n more ih =>
    -- What one call takes fits, so there is room for all if there is for what is left.
    have part := fits_take_accepted s octets
    have parts : octets = octets.take n ++ octets.drop n := (List.take_append_drop n octets).symm
    rw [ih, ← after_of_fits part, ← after_append, ← parts]
    congr 1
    rw [parts, fits_append, ← parts, part, Bool.true_and]

theorem writeAll_eq (s : Sink) (pieces : List String) :
    s.writeAll pieces =
      (s.after (.ofText (String.join pieces)), s.fits (.ofText (String.join pieces))) := by
  induction pieces generalizing s with
  | nil =>
    have empty : Octets.ofText (String.join []) = [] := rfl
    rw [writeAll, empty, after_nil, fits_nil]
  | cons piece pieces ih =>
    rw [String.join_cons, Text.ofText_append, fits_append, writeAll, write, writeOctets_eq]
    cases taken : s.fits (.ofText piece) with
    | true => simp only [ih, after_append, Bool.true_and]
    | false => simp only [after_append_of_not_fits taken, Bool.false_and]

end Sink

namespace Assessment

variable (a : Assessment) (reason : String)

theorem writeLog_eq_after (sink : Sink) : a.writeLog sink reason =
    (if sink.fits (.ofText a.auditLog) then a else a.record (.unwritableLog "<audit log>" reason),
      sink.after (.ofText a.auditLog)) := by
  rw [writeLog, Sink.writeAll_eq, auditLog, AuditEntry.log]
  cases sink.fits (.ofText (String.join (AuditEntry.logPieces a.auditEntries))) <;> rfl

theorem writeLog_of_fits {sound : Sink} (h : sound.fits (.ofText a.auditLog) = true) :
    a.writeLog sound reason = (a, sound.take (.ofText a.auditLog)) := by
  rw [writeLog_eq_after, if_pos h, Sink.after_of_fits h]

/-- A sink that runs full holds the beginning of the log. The run has one fault more, and is
otherwise as it was, so it writes the whole log to the next sink that takes it. -/
theorem writeLog_of_room (sink : Sink) {n : Nat} (limited : sink.room = some n) :
    let log := Octets.ofText (String.join (a.auditEntries.map (·.text ++ "\n")))
    let b := (a.writeLog sink reason).1
    (a.writeLog sink reason).2.taken = sink.taken ++ log.take (min n log.length) ∧
      b.faults = a.faults ++
        (if n < log.length then [.unwritableLog "<audit log>" reason] else []) ∧
      b.code = (if n < log.length then a.code.union (.ofKind .fileWrite) else a.code) ∧
      { b with faults := a.faults, code := a.code } = a ∧
      b.auditEntries = a.auditEntries ∧ b.summary = a.summary ∧
      ∀ (sound : Sink) (reason' : String), (∀ m ∈ sound.room, log.length ≤ m) →
        (b.writeLog sound reason').1 = b ∧
          (b.writeLog sound reason').2.taken = sound.taken ++ log := by
  intro log b
  have whole : Octets.ofText a.auditLog = log := by rw [auditLog, AuditEntry.log_eq_join]
  have run : b = if n < log.length then a.record (.unwritableLog "<audit log>" reason) else a := by
    have written := congrArg Prod.fst (a.writeLog_eq_after reason sink)
    simpa only [whole, Sink.fits, limited, Option.all_some, decide_eq_true_eq, ← Nat.not_lt,
      ite_not] using written
  have kept {α : Type} (f : Assessment → α)
      (same : f (a.record (.unwritableLog "<audit log>" reason)) = f a) : f b = f a := by
    rw [run]
    split
    · exact same
    · rfl
  refine ⟨?_, ?_, ?_, kept (fun b => { b with faults := a.faults, code := a.code }) rfl,
    kept auditEntries rfl, kept summary rfl, fun sound reason' room => ?_⟩
  · rw [writeLog_eq_after, whole, Sink.after, Sink.admitted, limited, Option.map_some,
      Option.getD_some, ← List.take_take, List.take_length]
  · rw [run]
    split
    · rfl
    · exact (List.append_nil a.faults).symm
  · rw [run]
    split <;> rfl
  · have later : b.auditLog = a.auditLog := kept auditLog rfl
    have fits : sound.fits (.ofText b.auditLog) = true := by
      rw [later, whole, Sink.fits, Option.all_eq_true]
      simpa using room
    rw [b.writeLog_of_fits reason' fits, later, whole]
    exact ⟨rfl, rfl⟩

theorem writeLog_of_room_eight :
    let a : Assessment :=
      { cppcheckOver "" with comments := [{ file := "a.c", line := 3, isNonMisra := true }] }
    let line := "a.c:3: info: Tool suppression comment tagged as not MISRA relevant\n"
    let b := (a.writeLog { room := some 8, portion := fun _ _ => 2 } "disk full").1
    (a.writeLog { room := some 8, portion := fun _ _ => 2 } "disk full").2.taken =
        .ofText "a.c:3: i" ∧
      b.faults = [.unwritableLog "<audit log>" "disk full"] ∧
      b.code = .ofKind .fileWrite ∧
      (b.writeLog {} "").2.taken = .ofText line := by
  intro a line b
  have log : String.join (a.auditEntries.map (·.text ++ "\n")) = line := by decide +kernel
  obtain ⟨taken, faults, code, -, -, -, later⟩ := a.writeLog_of_room "disk full"
    { room := some 8, portion := fun _ _ => 2 } rfl
  rw [log] at taken faults code later
  exact ⟨taken.trans (by decide +kernel), faults.trans (by decide +kernel),
    code.trans (by decide +kernel), (later {} "" nofun).2⟩

end Assessment

end GuidelineCompliance

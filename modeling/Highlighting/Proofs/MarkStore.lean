import Highlighting.MarkStore

/-!
Marks and the host. What a call that is not refused does to the marks of its buffer, how a list of
calls ends at the first that is refused, and why every mark that is kept has been sent.
-/
namespace Highlighting

theorem LineRange.contains_of_isEmpty {r : LineRange} (h : r.isEmpty) (line : Nat) :
    r.contains line = false := by
  rcases r with ⟨first, _ | last⟩
  · cases h
  · simp only [isEmpty, Option.any_some, decide_eq_true_eq] at h
    simp only [contains, Option.all_some, Bool.and_eq_false_iff, decide_eq_false_iff_not]
    omega

theorem GroupRule.mark?_line {r : GroupRule} {t : Token} {m : Mark} (h : r.mark? t = some m) :
    m.line = t.line := by
  obtain ⟨group, -, rfl⟩ := Option.map_eq_some_iff.1 h
  rfl

theorem mem_insertMark {x m : Mark} {marks : List Mark} :
    x ∈ insertMark m marks ↔ x = m ∨ x ∈ marks := by
  induction marks with
  | nil => simp [insertMark]
  | cons n rest ih =>
    unfold insertMark
    split
    · rw [List.mem_cons, ih, List.mem_cons]
      exact or_left_comm
    · simp

theorem mem_foldl_insertMark {x : Mark} {added marks : List Mark} :
    x ∈ added.foldl (fun all m => insertMark m all) marks ↔ x ∈ added ∨ x ∈ marks := by
  induction added generalizing marks with
  | nil => simp
  | cons m added ih =>
    rw [List.foldl_cons, ih, mem_insertMark, List.mem_cons]
    exact or_left_comm.trans or_assoc.symm

namespace Host

def Willing (h : Host) : Prop := ∀ attempts call, h.refuse attempts call = none

theorem willing_willing : willing.Willing := fun _ _ => rfl

def obliging (h : Host) : Host := { h with refuse := fun _ _ => none }

theorem obliging_willing (h : Host) : h.obliging.Willing := fun _ _ => rfl

theorem accepted_make {h : Host} {c : HostCall} (call : HostCall) (hc : c ∈ h.accepted) :
    c ∈ (h.make call).2.accepted := by
  obtain ⟨a, ha, rfl⟩ := List.mem_map.1 hc
  obtain ⟨hm, hr⟩ := List.mem_filter.1 ha
  exact List.mem_map_of_mem (List.mem_filter.2 ⟨List.mem_append_left _ hm, hr⟩)

theorem mem_accepted_make {h : Host} {call : HostCall} (hc : h.refuse h.attempts call = none) :
    call ∈ (h.make call).2.accepted := by
  have hm : (⟨call, none⟩ : Attempt) ∈ (h.make call).2.attempts := by
    unfold make
    rw [hc]
    exact List.mem_append_right _ (List.mem_singleton.2 rfl)
  exact List.mem_map.2 ⟨⟨call, none⟩, List.mem_filter.2 ⟨hm, rfl⟩, rfl⟩

end Host

namespace MarkStore
variable {s : MarkStore} {h : Host} {buffer : Nat}

theorem marks_put (t : Table Nat (List Mark)) (buffer other : Nat) (marks : List Mark) :
    (⟨t.put buffer marks⟩ : MarkStore).marks other =
      if buffer = other then marks else (⟨t⟩ : MarkStore).marks other := by
  unfold MarkStore.marks
  split
  · next h => rw [← h, Table.get?_put_self, Option.getD_some]
  · next h => rw [Table.get?_put_of_ne _ _ fun he => h he.symm]

theorem marks_forget (s : MarkStore) (buffer other : Nat) :
    (s.forget buffer).marks other = if buffer = other then [] else s.marks other := by
  unfold forget MarkStore.marks
  split
  · next h => rw [← h, Table.get?_erase_self, Option.getD_none]
  · next h => rw [Table.get?_erase_of_ne _ fun he => h he.symm]

theorem mem_marks_add {added : List Mark} {m : Mark} :
    m ∈ (s.apply (.addMarks buffer added)).marks buffer ↔ m ∈ added ∨ m ∈ s.marks buffer := by
  unfold apply marks
  rw [Table.get?_put_self, Option.getD_some]
  exact mem_foldl_insertMark

theorem mem_marks_remove {range : LineRange} {m : Mark} :
    m ∈ (s.apply (.removeMarks buffer range)).marks buffer ↔
      m ∈ s.marks buffer ∧ range.contains m.line = false := by
  unfold apply marks
  rw [Table.get?_put_self, Option.getD_some, List.mem_filter, Bool.not_eq_true']

/-- Makes calls in order up to the first that is refused, and gives the reason. -/
def callAll (s : MarkStore) (h : Host) : List HostCall → Option String × MarkStore × Host
  | [] => (none, s, h)
  | c :: rest =>
    match h.make c with
    | (none, h) => (s.apply c).callAll h rest
    | (some reason, h) => (some reason, s, h)

/-- All calls are accepted, or the first ones and the next is not. -/
theorem callAll_cases (s : MarkStore) (h : Host) (calls : List HostCall) :
    s.callAll h calls = (none, calls.foldl apply s,
        { h with attempts := h.attempts ++ calls.map (⟨·, none⟩) }) ∨
      ∃ before call after reason, calls = before ++ call :: after ∧ ¬ h.Willing ∧
        s.callAll h calls = (some reason, before.foldl apply s,
          { h with attempts := h.attempts ++ before.map (⟨·, none⟩) ++
            [⟨call, some reason⟩] }) := by
  induction calls generalizing s h with
  | nil => exact .inl (by simp [callAll])
  | cons c rest ih =>
    rw [callAll, Host.make]
    cases hc : h.refuse h.attempts c with
    | some reason =>
      refine .inr ⟨[], c, rest, reason, rfl, fun hw => ?_, by simp⟩
      rw [hw] at hc
      cases hc
    | none =>
      dsimp only
      obtain hall | ⟨before, call, after, reason, hsplit, hw, hstop⟩ :=
        ih (s.apply c) { h with attempts := h.attempts ++ [⟨c, none⟩] }
      · exact .inl (by rw [hall]; simp)
      · exact .inr ⟨c :: before, call, after, reason, by rw [hsplit]; rfl, hw, by rw [hstop]; simp⟩

theorem callAll_append (s : MarkStore) (h : Host) (first rest : List HostCall) :
    s.callAll h (first ++ rest) =
      match s.callAll h first with
      | (none, s, h) => s.callAll h rest
      | refused => refused := by
  induction first generalizing s h with
  | nil => rfl
  | cons c first ih =>
    rw [List.cons_append, callAll, callAll]
    rcases h.make c with ⟨_ | reason, h'⟩
    · exact ih (s.apply c) h'
    · rfl

def addCalls (buffer : Nat) : List Mark → List HostCall
  | [] => []
  | m :: rest => [.addMarks buffer (m :: rest)]

def removeCalls (buffer : Nat) (range : LineRange) : List HostCall :=
  if range.isEmpty then [] else [.removeMarks buffer range]

theorem set_eq (s : MarkStore) (h : Host) (buffer : Nat) (rule : GroupRule)
    (tokens : List Token) :
    s.set h buffer rule tokens =
      match s.callAll h (addCalls buffer (tokens.filterMap rule.mark?)) with
      | (none, s, h) => (.ok ((tokens.filterMap rule.mark?).length, s), h)
      | (some reason, _, h) => (.error reason, h) := by
  unfold set
  cases tokens.filterMap rule.mark? with
  | nil => rfl
  | cons m rest =>
    dsimp only
    rw [addCalls, callAll, call]
    rcases h.make (.addMarks buffer (m :: rest)) with ⟨_ | reason, h'⟩ <;> rfl

theorem undecorate_eq (s : MarkStore) (h : Host) (buffer : Nat) (range : LineRange) :
    s.undecorate h buffer range =
      match s.callAll h [.removeMarks buffer range] with
      | (none, s, h) => (.ok s, h)
      | (some reason, _, h) => (.error reason, h) := by
  rw [undecorate, call, callAll]
  rcases h.make (.removeMarks buffer range) with ⟨_ | reason, h'⟩ <;> rfl

theorem mem_marks_addCalls {marks : List Mark} {m : Mark} :
    m ∈ ((addCalls buffer marks).foldl apply s).marks buffer ↔
      m ∈ marks ∨ m ∈ s.marks buffer := by
  cases marks with
  | nil => simp [addCalls]
  | cons x rest => exact mem_marks_add

theorem mem_marks_removeCalls {range : LineRange} {m : Mark} :
    m ∈ ((removeCalls buffer range).foldl apply s).marks buffer ↔
      m ∈ s.marks buffer ∧ range.contains m.line = false := by
  unfold removeCalls
  split
  · next h => simp [LineRange.contains_of_isEmpty h]
  · exact mem_marks_remove

/-- Each mark of the buffer has been sent in a call that was accepted. -/
def Sent (s : MarkStore) (h : Host) (buffer : Nat) : Prop :=
  ∀ m ∈ s.marks buffer, ∃ marks, .addMarks buffer marks ∈ h.accepted ∧ m ∈ marks

theorem Sent.make (hs : s.Sent h buffer) (call : HostCall) : s.Sent (h.make call).2 buffer := by
  intro m hm
  obtain ⟨marks, hc, hin⟩ := hs m hm
  exact ⟨marks, Host.accepted_make call hc, hin⟩

theorem Sent.apply (hs : s.Sent h buffer) {call : HostCall}
    (hc : h.refuse h.attempts call = none) : (s.apply call).Sent (h.make call).2 buffer := by
  intro m hm
  cases call with
  | addMarks b marks =>
    rw [MarkStore.apply, marks_put] at hm
    split at hm
    · next hb =>
      obtain hm | hm := mem_foldl_insertMark.1 hm
      · exact ⟨marks, hb ▸ Host.mem_accepted_make hc, hm⟩
      · exact hs.make _ m (hb ▸ hm)
    · exact hs.make _ m hm
  | removeMarks b range =>
    rw [MarkStore.apply, marks_put] at hm
    split at hm
    · next hb => exact hs.make _ m (hb ▸ (List.mem_filter.1 hm).1)
    · exact hs.make _ m hm
  | disable => exact hs.make _ m hm
  | openScratch fileType lines => exact hs.make _ m hm

theorem Sent.callAll (hs : s.Sent h buffer) (calls : List HostCall) :
    (s.callAll h calls).2.1.Sent (s.callAll h calls).2.2 buffer := by
  induction calls generalizing s h with
  | nil => exact hs
  | cons c rest ih =>
    have happly : h.refuse h.attempts c = none → (s.apply c).Sent (h.make c).2 buffer := hs.apply
    have hmake := hs.make c
    rw [MarkStore.callAll]
    unfold Host.make at happly hmake ⊢
    cases hc : h.refuse h.attempts c with
    | none =>
      rw [hc] at happly
      exact ih (happly rfl)
    | some reason =>
      rw [hc] at hmake
      exact hmake

end MarkStore

end Highlighting

import Highlighting.Proofs.MarkStore

/-!
Marks by line. Calls that the editor accepts change the store as they change a list of marks in the
order in which they were added; the store has the same marks by line.
-/
namespace Highlighting

def onLine (line : Nat) (marks : List Mark) : List Mark := marks.filter fun m => m.line = line

theorem onLine_append (line : Nat) (first rest : List Mark) :
    onLine line (first ++ rest) = onLine line first ++ onLine line rest :=
  List.filter_append ..

def ByLine (marks : List Mark) : Prop := marks.Pairwise fun a b => a.line ≤ b.line

theorem ByLine.insertMark {marks : List Mark} (h : ByLine marks) (m : Mark) :
    ByLine (insertMark m marks) := by
  induction marks with
  | nil => exact List.pairwise_singleton _ m
  | cons n rest ih =>
    obtain ⟨hn, hrest⟩ := List.pairwise_cons.1 h
    unfold Highlighting.insertMark
    split
    · next hle =>
      refine List.pairwise_cons.2 ⟨fun x hx => ?_, ih hrest⟩
      obtain rfl | hx := mem_insertMark.1 hx
      · exact hle
      · exact hn x hx
    · next hlt =>
      refine List.pairwise_cons.2 ⟨fun x hx => ?_, h⟩
      obtain rfl | hx := List.mem_cons.1 hx
      · omega
      · have := hn x hx
        omega

theorem ByLine.onLine_insertMark {marks : List Mark} (h : ByLine marks) (m : Mark) (line : Nat) :
    onLine line (Highlighting.insertMark m marks) = onLine line marks ++ onLine line [m] := by
  induction marks with
  | nil => rfl
  | cons n rest ih =>
    obtain ⟨hn, hrest⟩ := List.pairwise_cons.1 h
    unfold Highlighting.insertMark
    split
    · have hcons : ∀ marks, onLine line (n :: marks) = onLine line [n] ++ onLine line marks :=
        onLine_append line [n]
      rw [hcons, hcons rest, ih hrest, List.append_assoc]
    · next hlt =>
      by_cases hm : m.line = line
      · have hnone : onLine line (n :: rest) = [] := by
          refine List.filter_eq_nil_iff.2 fun x hx => ?_
          obtain rfl | hx := List.mem_cons.1 hx
          · simp only [decide_eq_true_eq]
            omega
          · have := hn x hx
            simp only [decide_eq_true_eq]
            omega
        rw [hnone, List.nil_append]
        exact (onLine_append line [m] (n :: rest)).trans (by rw [hnone, List.append_nil])
      · have hskip : onLine line [m] = [] := by simp [onLine, hm]
        rw [hskip, List.append_nil]
        exact (onLine_append line [m] (n :: rest)).trans (by rw [hskip, List.nil_append])

/-- The marks that were added one after another, by line, and on each line in that order. -/
structure Arranged (kept added : List Mark) : Prop where
  byLine : ByLine kept
  onLine_eq : ∀ line, onLine line kept = onLine line added

namespace Arranged
variable {kept added : List Mark}

theorem nil : Arranged [] [] := ⟨List.Pairwise.nil, fun _ => rfl⟩

theorem add (h : Arranged kept added) (marks : List Mark) :
    Arranged (marks.foldl (fun all m => insertMark m all) kept) (added ++ marks) := by
  induction marks generalizing kept added with
  | nil => simpa using h
  | cons m marks ih =>
    have hstep : Arranged (insertMark m kept) (added ++ [m]) := by
      refine ⟨h.byLine.insertMark m, fun line => ?_⟩
      rw [h.byLine.onLine_insertMark m line, h.onLine_eq line, onLine_append]
    simpa using ih hstep

theorem filter (h : Arranged kept added) (p : Mark → Bool) :
    Arranged (kept.filter p) (added.filter p) := by
  refine ⟨h.byLine.filter p, fun line => ?_⟩
  have hcomm : ∀ marks, onLine line (marks.filter p) = (onLine line marks).filter p := by
    intro marks
    unfold onLine
    rw [List.filter_filter, List.filter_filter]
    simp only [Bool.and_comm]
  rw [hcomm, hcomm, h.onLine_eq line]

theorem perm (h : Arranged kept added) : kept.Perm added := by
  refine List.perm_iff_count.2 fun m => ?_
  have hcount : ∀ marks : List Mark, (onLine m.line marks).count m = marks.count m :=
    fun marks => List.count_filter (by simp)
  rw [← hcount kept, ← hcount added, h.onLine_eq]

end Arranged

theorem ByLine.arranged {marks : List Mark} (h : ByLine marks) : Arranged marks marks :=
  ⟨h, fun _ => rfl⟩

/-- What an accepted call does to the marks that the editor shows on a buffer. -/
def HostCall.alter (buffer : Nat) (shown : List Mark) : HostCall → List Mark
  | .addMarks b marks => if b = buffer then shown ++ marks else shown
  | .removeMarks b range =>
    if b = buffer then shown.filter fun m => !range.contains m.line else shown
  | .disable | .openScratch .. => shown

namespace MarkStore
variable {s : MarkStore} {buffer : Nat}

/-- An accepted call changes the store as it changes what the editor shows. -/
theorem apply_arranged {shown : List Mark} (h : Arranged (s.marks buffer) shown)
    (call : HostCall) :
    Arranged ((s.apply call).marks buffer) (call.alter buffer shown) := by
  cases call with
  | addMarks b marks =>
    rw [apply, marks_put, HostCall.alter]
    split
    · next hb => exact hb ▸ h.add marks
    · exact h
  | removeMarks b range =>
    rw [apply, marks_put, HostCall.alter]
    split
    · next hb => exact hb ▸ h.filter _
    · exact h
  | disable => exact h
  | openScratch fileType lines => exact h

theorem foldl_apply_arranged {shown : List Mark} (h : Arranged (s.marks buffer) shown)
    (calls : List HostCall) :
    Arranged ((calls.foldl apply s).marks buffer)
      (calls.foldl (fun shown call => call.alter buffer shown) shown) := by
  induction calls generalizing s shown with
  | nil => exact h
  | cons call calls ih => exact ih (apply_arranged h call)

theorem marks_addCalls_of_ne {other : Nat} (h : other ≠ buffer) (marks : List Mark) :
    ((addCalls buffer marks).foldl apply s).marks other = s.marks other := by
  cases marks with
  | nil => rfl
  | cons m rest => exact (marks_put ..).trans (if_neg fun he => h he.symm)

theorem marks_removeCalls_of_ne {other : Nat} (h : other ≠ buffer) (range : LineRange) :
    ((removeCalls buffer range).foldl apply s).marks other = s.marks other := by
  unfold removeCalls
  split
  · rfl
  · exact (marks_put ..).trans (if_neg fun he => h he.symm)

theorem onLine_addCalls (h : ByLine (s.marks buffer)) (marks : List Mark) (line : Nat) :
    onLine line (((addCalls buffer marks).foldl apply s).marks buffer) =
      onLine line (s.marks buffer) ++ onLine line marks := by
  rw [(foldl_apply_arranged h.arranged (addCalls buffer marks)).onLine_eq, ← onLine_append]
  cases marks with
  | nil => simp [addCalls]
  | cons m rest => simp [addCalls, HostCall.alter]

theorem onLine_removeCalls (h : ByLine (s.marks buffer)) (range : LineRange) (line : Nat) :
    onLine line (((removeCalls buffer range).foldl apply s).marks buffer) =
      if range.contains line then [] else onLine line (s.marks buffer) := by
  rw [(foldl_apply_arranged h.arranged (removeCalls buffer range)).onLine_eq]
  unfold removeCalls
  split
  · next hempty => simp [LineRange.contains_of_isEmpty hempty]
  · simp only [List.foldl_cons, List.foldl_nil, HostCall.alter, if_true]
    unfold onLine
    rw [List.filter_filter]
    split
    · next hin =>
      refine List.filter_eq_nil_iff.2 fun m _ => ?_
      simp only [Bool.and_eq_true, decide_eq_true_eq, Bool.not_eq_true', not_and,
        Bool.not_eq_false]
      exact fun hm => hm ▸ hin
    · next hout =>
      refine List.filter_congr fun m _ => ?_
      by_cases hm : m.line = line
      · simp [hm, hout]
      · simp [hm]

theorem byLine_foldl_apply (h : ∀ buffer, ByLine (s.marks buffer)) (calls : List HostCall)
    (buffer : Nat) : ByLine ((calls.foldl apply s).marks buffer) :=
  (foldl_apply_arranged (h buffer).arranged calls).byLine

theorem callAll_store (s : MarkStore) (h : Host) (calls : List HostCall) :
    ∃ made, made <+: calls ∧ (s.callAll h calls).2.1 = made.foldl apply s := by
  obtain hall | ⟨before, call, after, reason, hsplit, -, hstop⟩ := s.callAll_cases h calls
  · exact ⟨calls, List.prefix_refl calls, by rw [hall]⟩
  · exact ⟨before, hsplit ▸ List.prefix_append .., by rw [hstop]⟩

end MarkStore

end Highlighting

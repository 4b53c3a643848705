import Highlighting.Proofs.Highlighter.Served
import Highlighting.Proofs.Sample

/-!
Trying again after the host has refused a call. The parse of the failed attempt stays, so the same
request finds nothing changed.
-/
namespace Highlighting.Highlighter

/-- A request that the host has refused, made again when highlighting is back on and the host
refuses nothing, leaves the marks that the attempt was meant to leave on the lines that it was
about exactly if it is a refresh or they were there before. -/
theorem retry_complete_iff (h : Highlighter) (files : Files) (host other : Host) (buffer : Nat)
    (v : View) (reason : String)
    (refused : (h.serve files host buffer v).1 = .disabled (.highlightApply reason))
    (willing : other.Willing) :
    let attempt := h.serve files host buffer v
    let meant := h.serve files host.obliging buffer v
    let retried := attempt.2.1.enable.serve files other buffer v
    retried.1.Answered ∧
      ((∀ m ∈ meant.2.1.store.marks buffer, Covered meant.1.range? m.line →
          m ∈ retried.2.1.store.marks buffer) ↔
        v.refresh = true ∨
          ∀ m ∈ meant.2.1.store.marks buffer, Covered meant.1.range? m.line →
            m ∈ h.store.marks buffer) := by
  have served := h.serve_served files host buffer v
  generalize h.serve files host buffer v = attempt at refused served
  cases served with
  | skipped reason tokenizer calls run kept => cases refused
  | aborted tokenizer exhausts => cases refused
  | failed failure tokenizer calls run kept own =>
    injection refused with hfailure
    exact absurd hfailure (own reason)
  | done scopeName parsed tokenizer parses outcome store host' answered range renewed sent =>
    rw [show outcome = _ from refused] at answered
    cases answered
  | refused scopeName parsed tokenizer parses reason store host' unwilling kept sent =>
    obtain ⟨meant, stored, _, hmeant, -, hrange, hstored⟩ := parses.done host.obliging_willing
    obtain ⟨tokenizer', hagain⟩ := parses.again
      (enable { h with tokenizer := tokenizer, store := store, disabled := true }) rfl rfl
    obtain ⟨outcome, after, _, hretried, answered, -, hafter⟩ := hagain.done willing
    dsimp only
    rw [hmeant, hretried]
    refine ⟨answered, ?_⟩
    dsimp only
    rw [hrange]
    by_cases hr : v.refresh = true
    · refine iff_of_true (fun m hm hc => ?_) (.inl hr)
      rw [hr] at hstored
      obtain ⟨t, ht, htm⟩ := hstored.token_of_clear hm hc
      have hall : Covered (v.range? ⟨parsed.tokens, none⟩) t.line := by
        unfold View.range?
        rw [hr]
        exact ⟨.all, rfl, by simp [LineRange.contains, LineRange.all]⟩
      exact (hafter m).2 (.inl ⟨t, ht, hall, htm⟩)
    · have hrefresh : v.refresh = false := by simpa using hr
      have hnone : v.range? ⟨parsed.tokens, none⟩ = none := by
        unfold View.range?
        rw [hrefresh]
        rfl
      have hsame : ∀ m, m ∈ after.marks buffer ↔ m ∈ h.store.marks buffer := by
        intro m
        rw [← kept hrefresh]
        rw [hnone] at hafter
        exact (hafter m).trans ((MarkStore.renewed_none _ _ m).symm)
      simp only [hsame, hrefresh, Bool.false_eq_true, false_or]

def sampleAttempt (refresh : Bool) (host : Host) : Outcome × Highlighter × Host :=
  (new Sample.registry Sample.rules).serve Sample.files host 1 ⟨Sample.path, ["k"], 0, refresh⟩

theorem retry_complete_with_refresh :
    let attempt := sampleAttempt true Sample.refusing
    let meant := sampleAttempt true Sample.refusing.obliging
    let retried := attempt.2.1.enable.serve Sample.files .willing 1 ⟨Sample.path, ["k"], 0, true⟩
    attempt.1 = .disabled (.highlightApply "gone") ∧
      ∀ m ∈ meant.2.1.store.marks 1, Covered meant.1.range? m.line →
        m ∈ retried.2.1.store.marks 1 := by
  have hrefused : (sampleAttempt true Sample.refusing).1 =
      .disabled (.highlightApply "gone") := by cbv
  have hretry := retry_complete_iff (new Sample.registry Sample.rules) Sample.files
    Sample.refusing .willing 1 ⟨Sample.path, ["k"], 0, true⟩ "gone" hrefused
    Host.willing_willing
  exact ⟨hrefused, hretry.2.2 (.inl rfl)⟩

/-- Without a refresh, a mark that the host has refused once is never set. -/
theorem retry_mark_missing :
    let attempt := sampleAttempt false Sample.refusing
    let meant := sampleAttempt false Sample.refusing.obliging
    let retried := attempt.2.1.enable.serve Sample.files .willing 1 ⟨Sample.path, ["k"], 0, false⟩
    attempt.1 = .disabled (.highlightApply "gone") ∧ retried.1 = .noChange ∧
      ¬ ∀ m ∈ meant.2.1.store.marks 1, Covered meant.1.range? m.line →
        m ∈ retried.2.1.store.marks 1 := by
  intro attempt meant retried
  have hmeant : (meant.1.range?, meant.2.1.store.marks 1) =
      (some (.between 0 0), [⟨0, 0, 1, "Keyword"⟩]) := by
    unfold meant
    cbv
  have hretried : (attempt.1, retried.1, retried.2.1.store.marks 1) =
      (.disabled (.highlightApply "gone"), .noChange, []) := by
    unfold retried attempt
    cbv
  obtain ⟨hrange, hmarks⟩ := Prod.mk.inj hmeant
  obtain ⟨hattempt, hrest⟩ := Prod.mk.inj hretried
  obtain ⟨houtcome, hnone⟩ := Prod.mk.inj hrest
  refine ⟨hattempt, houtcome, fun hall => ?_⟩
  have hmissing := hall ⟨0, 0, 1, "Keyword"⟩ (by rw [hmarks]; simp)
    (by rw [hrange]; exact ⟨_, rfl, rfl⟩)
  rw [hnone] at hmissing
  cases hmissing

end Highlighting.Highlighter

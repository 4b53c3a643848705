import Highlighting.Proofs.Highlighter.Served
import Highlighting.Proofs.Sample

/-!
Marks in view. Below the last visible line the marks of new content are missing until a later
request starts above them.
-/
namespace Highlighting

/-- After requests with these outcomes, newest first, a line has been reached since its content has
changed: the newest range covers it, or starts below it and an earlier one reaches it. -/
def Shown (line : Nat) : List Outcome → Prop
  | [] => False
  | o :: earlier => Covered o.range? line ∨ (∀ r ∈ o.range?, line < r.first) ∧ Shown line earlier

instance decidableShown (line : Nat) : (outcomes : List Outcome) → Decidable (Shown line outcomes)
  | [] => inferInstanceAs (Decidable False)
  | o :: earlier =>
    have := decidableShown line earlier
    inferInstanceAs (Decidable
      (Covered o.range? line ∨ (∀ r ∈ o.range?, line < r.first) ∧ Shown line earlier))

theorem shown_cons_of_none {o : Outcome} (h : o.range? = none) {line : Nat}
    {earlier : List Outcome} : Shown line (o :: earlier) ↔ Shown line earlier := by
  rw [Shown, h]
  constructor
  · rintro (hc | ⟨-, hs⟩)
    · exact absurd hc (not_covered_none line)
    · exact hs
  · exact fun hs => .inr ⟨nofun, hs⟩

theorem not_covered_of_above {range? : Option LineRange} {line : Nat}
    (h : ∀ r ∈ range?, line < r.first) : ¬ Covered range? line := by
  rintro ⟨r, hr, hc⟩
  have hlt := h r hr
  simp only [LineRange.contains, Bool.and_eq_true, decide_eq_true_eq] at hc
  omega

theorem Plan.above_changeStart {changeStart : Option Nat} {refresh : Bool} {visibleEnd line : Nat}
    (h : ∀ r ∈ (decide changeStart refresh visibleEnd).range?, line < r.first) :
    ∀ start, changeStart = some start → line < start := by
  rintro start rfl
  cases refresh <;> exact h _ rfl

/-- The marks that a text calls for, from scratch. -/
def Highlighter.wanted (h : Highlighter) (files : Files) (v : View) : Except Failure (List Mark) :=
  let (named, tokenizer) := h.tokenizer.scopeName files v.path
  named.bind fun scopeName =>
    (tokenizer.tokenize files scopeName v.lines).1.map fun tokens =>
      tokens.filterMap (h.rules.resolve scopeName).mark?

structure Session where
  highlighter : Highlighter
  host : Host
  /-- What became of the requests, newest first. -/
  outcomes : List Outcome := []

namespace Session

def start (registry : Registry) (rules : RuleTable) (host : Host) : Session :=
  { highlighter := .new registry rules, host := host }

def ask (files : Files) (buffer : Nat) (s : Session) (v : View) : Session :=
  let (outcome, highlighter, host) := s.highlighter.serve files s.host buffer v
  ⟨highlighter, host, outcome :: s.outcomes⟩

def run (files : Files) (buffer : Nat) (s : Session) (views : List View) : Session :=
  views.foldl (ask files buffer) s

def marks (s : Session) (buffer : Nat) : List Mark := s.highlighter.store.marks buffer

def Answered (s : Session) : Prop := ∃ o, s.outcomes.head? = some o ∧ o.Answered

/-- As long as highlighting is on, lines that have been shown have the marks that the tokens of the
last parse call for. -/
structure UpToDate (buffer : Nat) (s : Session) : Prop where
  coherent : s.highlighter.tokenizer.Coherent
  sent : s.highlighter.store.Sent s.host buffer
  shown : s.highlighter.disabled = false →
    ∀ state, s.highlighter.tokenizer.buffers.get? buffer = some state →
      ∀ t ∈ state.tokens.flatten, Shown t.line s.outcomes →
        ∀ m, (s.highlighter.rules.resolve state.scopeName).mark? t = some m → m ∈ s.marks buffer

theorem start_upToDate (registry : Registry) (rules : RuleTable) (host : Host) (buffer : Nat) :
    (start registry rules host).UpToDate buffer where
  coherent := Tokenizer.coherent_of_registry registry
  sent m hm := by cases hm
  shown _ state hs := by cases hs

variable {files : Files} {buffer : Nat} {s : Session} {v : View} {scopeName : String}
  {parsed : Parsed} {tokenizer : Tokenizer}

/-- When a plan has been carried out, the tokens on lines that have been shown have their marks. -/
theorem UpToDate.mem_renewed (hs : s.UpToDate buffer)
    (parses : s.highlighter.Parses files buffer v scopeName parsed tokenizer) {o : Outcome}
    {store : MarkStore} (range : o.range? = v.range? parsed)
    (renewed : s.highlighter.store.Renewed buffer (s.highlighter.rules.resolve scopeName)
      parsed.tokens (v.range? parsed) v.refresh store) {t : Token} (ht : t ∈ parsed.tokens)
    (hshown : Shown t.line (o :: s.outcomes)) {m : Mark}
    (hm : (s.highlighter.rules.resolve scopeName).mark? t = some m) : m ∈ store.marks buffer := by
  rw [Shown, range] at hshown
  obtain hc | ⟨habove, hearlier⟩ := hshown
  · exact (renewed m).2 (.inl ⟨t, ht, hc, hm⟩)
  have hnamed := hs.coherent.step files (.scopeName v.path)
  obtain ⟨failure, hp, -⟩ | ⟨g, tokens, ends, hl, hscan, hp⟩ :=
    hnamed.parse_cases files buffer scopeName v.lines
  · cases hp.symm.trans parses.parse
  have hparsed := (Prod.mk.inj (hp.symm.trans parses.parse)).1
  injection hparsed with hparsed
  subst hparsed
  have hstart := Plan.above_changeStart habove
  obtain ⟨state, hget, hname, hin⟩ :=
    Tokenizer.mem_tokens_of_unchanged (hnamed.previous hl) hscan ht hstart
  have hold : m ∈ s.marks buffer :=
    hs.shown parses.enabled state hget t hin hearlier m (by rw [hname]; exact hm)
  have hline := GroupRule.mark?_line hm
  exact renewed.kept hold (hline ▸ not_covered_of_above habove)

theorem UpToDate.ask (hs : s.UpToDate buffer) (files : Files) (v : View) :
    (s.ask files buffer v).UpToDate buffer := by
  have served := s.highlighter.serve_served files s.host buffer v
  unfold Session.ask
  generalize s.highlighter.serve files s.host buffer v = r at served
  have hcoherent : ∀ {scopeName parsed tokenizer},
      s.highlighter.Parses files buffer v scopeName parsed tokenizer → tokenizer.Coherent := by
    intro scopeName parsed tokenizer parses
    have hstep := (hs.coherent.step files (.scopeName v.path)).step files
      (.parse buffer scopeName v.lines)
    simpa only [Tokenizer.step, parses.parse] using hstep
  cases served with
  | skipped reason tokenizer calls run kept =>
    subst run
    refine ⟨hs.coherent.run calls, hs.sent, fun enabled state hget t ht hshown => ?_⟩
    exact hs.shown enabled state (kept ▸ hget) t ht ((shown_cons_of_none rfl).1 hshown)
  | aborted tokenizer exhausts =>
    obtain ⟨calls, rfl⟩ := exhausts.run
    refine ⟨hs.coherent.run calls, hs.sent, fun enabled state hget t ht hshown => ?_⟩
    exact hs.shown enabled state (exhausts.buffers_eq ▸ hget) t ht
      ((shown_cons_of_none rfl).1 hshown)
  | failed failure tokenizer calls run kept own =>
    subst run
    exact ⟨hs.coherent.run calls, hs.sent.make .disable, fun enabled => Bool.noConfusion enabled⟩
  | refused scopeName parsed tokenizer parses reason store host' unwilling kept sent =>
    exact ⟨hcoherent parses, sent hs.sent, fun enabled => Bool.noConfusion enabled⟩
  | done scopeName parsed tokenizer parses outcome store host' answered range renewed sent =>
    refine ⟨hcoherent parses, sent hs.sent, fun _ state hget t ht hshown m hm => ?_⟩
    obtain ⟨g, kept, -, rfl, hname, -, htokens⟩ := Tokenizer.parse_ok parses.parse
    have hstate : kept = state := by
      have hput := Table.get?_put_self s.highlighter.tokenizer.buffers buffer kept
      exact Option.some.inj (hput.symm.trans hget)
    subst hstate
    rw [htokens] at ht
    dsimp only at hm
    rw [hname] at hm
    exact hs.mem_renewed parses range renewed ht hshown hm

theorem UpToDate.run (hs : s.UpToDate buffer) (files : Files) (views : List View) :
    (s.run files buffer views).UpToDate buffer :=
  List.foldlRecOn views _ hs fun _ hs v _ => hs.ask files v

theorem UpToDate.wanted (hs : s.UpToDate buffer)
    (parses : s.highlighter.Parses files buffer v scopeName parsed tokenizer) :
    s.highlighter.wanted files v =
      .ok (parsed.tokens.filterMap (s.highlighter.rules.resolve scopeName).mark?) := by
  unfold Highlighter.wanted
  dsimp only
  rw [parses.named, Except.bind, parses.tokenize_eq hs.coherent]
  rfl

/-- Marks in view are complete after a request exactly if each wanted one is on a line that has been
shown or is left from older content. On lines that have been shown none is ever lost, and every mark
has been sent. -/
theorem visible_marks_complete_iff (registry : Registry) (rules : RuleTable) (host : Host)
    (files : Files) (buffer : Nat) (views : List View) (v : View)
    (answered :
      (((start registry rules host).run files buffer views).ask files buffer v).Answered) :
    let before := (start registry rules host).run files buffer views
    let after := before.ask files buffer v
    ∃ wanted, before.highlighter.wanted files v = .ok wanted ∧
      ((∀ m ∈ wanted, m.line ≤ v.visibleEnd → m ∈ after.marks buffer) ↔
        ∀ m ∈ wanted, m.line ≤ v.visibleEnd →
          Shown m.line after.outcomes ∨ m ∈ before.marks buffer) ∧
      (∀ m ∈ wanted, Shown m.line after.outcomes → m ∈ after.marks buffer) ∧
      after.highlighter.store.Sent after.host buffer := by
  intro before after
  have hbefore : before.UpToDate buffer :=
    (start_upToDate registry rules host buffer).run files views
  have hafter : after.UpToDate buffer := hbefore.ask files v
  suffices exact : ∃ wanted, before.highlighter.wanted files v = .ok wanted ∧
      ∀ m ∈ wanted, m ∈ after.marks buffer ↔
        Shown m.line after.outcomes ∨ m ∈ before.marks buffer by
    obtain ⟨wanted, hw, hiff⟩ := exact
    refine ⟨wanted, hw, ?_, fun m hm hs => (hiff m hm).2 (.inl hs), hafter.sent⟩
    exact forall₃_congr fun m hm hle => hiff m hm
  change after.Answered at answered
  have served := before.highlighter.serve_served files before.host buffer v
  have hask : after = Session.ask files buffer before v := rfl
  unfold Session.ask at hask
  generalize before.highlighter.serve files before.host buffer v = r at served hask
  clear_value after
  subst hask
  obtain ⟨o, ho, hanswered⟩ := answered
  cases ho
  cases served with
  | skipped reason tokenizer calls run kept => cases hanswered
  | aborted tokenizer exhausts => cases hanswered
  | failed failure tokenizer calls run kept own => cases hanswered
  | refused scopeName parsed tokenizer parses reason store host' unwilling kept sent =>
    cases hanswered
  | done scopeName parsed tokenizer parses outcome store host' _ range renewed sent =>
    refine ⟨_, hbefore.wanted parses, fun m hm => ?_⟩
    obtain ⟨t, ht, htm⟩ := List.mem_filterMap.1 hm
    have hline := GroupRule.mark?_line htm
    constructor
    · intro hin
      obtain ⟨t', -, hc, htm'⟩ | ⟨hold, -⟩ := (renewed m).1 hin
      · have hline' := GroupRule.mark?_line htm'
        exact .inl (.inl (by rw [range, hline']; exact hc))
      · exact .inr hold
    · rintro (hshown | hold)
      · exact hbefore.mem_renewed parses range renewed ht (hline ▸ hshown) htm
      · by_cases hc : Covered (v.range? parsed) m.line
        · exact (renewed m).2 (.inl ⟨t, ht, hline ▸ hc, htm⟩)
        · exact renewed.kept hold hc

def sampleView (lines : List String) (visibleEnd : Nat) : View :=
  ⟨Sample.path, lines, visibleEnd, false⟩

def sampleSession (v : View) : Session :=
  (start Sample.registry Sample.rules .willing).run Sample.files 1 [v]

theorem visible_marks_complete_after_edit :
    let before := sampleSession (sampleView ["k", ""] 1)
    let after := before.ask Sample.files 1 (sampleView ["k", "k"] 1)
    after.outcomes = [.partialUpdate 1 1 1, .partialUpdate 0 1 1] ∧
      ∃ wanted, before.highlighter.wanted Sample.files (sampleView ["k", "k"] 1) = .ok wanted ∧
        ∀ m ∈ wanted, m.line ≤ 1 → m ∈ after.marks 1 := by
  have houtcomes : ((sampleSession (sampleView ["k", ""] 1)).ask Sample.files 1
      (sampleView ["k", "k"] 1)).outcomes = [.partialUpdate 1 1 1, .partialUpdate 0 1 1] := by cbv
  have hanswered : ((sampleSession (sampleView ["k", ""] 1)).ask Sample.files 1
      (sampleView ["k", "k"] 1)).Answered := ⟨.partialUpdate 1 1 1, by rw [houtcomes]; rfl, trivial⟩
  obtain ⟨wanted, hw, hiff, -, -⟩ := visible_marks_complete_iff Sample.registry Sample.rules
    .willing Sample.files 1 [sampleView ["k", ""] 1] (sampleView ["k", "k"] 1) hanswered
  refine ⟨houtcomes, wanted, hw, hiff.2 fun m _ hle => .inl ?_⟩
  have hshown : Shown m.line [.partialUpdate 1 1 1, .partialUpdate 0 1 1] := by
    obtain hz | ho := Nat.le_one_iff_eq_zero_or_eq_one.1 hle
    · rw [hz]
      decide
    · rw [ho]
      decide
  exact houtcomes ▸ hshown

set_option maxRecDepth 1000 in
/-- When a line comes into view without an edit, its mark is never set. -/
theorem visible_mark_missing :
    let before := sampleSession (sampleView ["k", "k"] 0)
    let after := before.ask Sample.files 1 (sampleView ["k", "k"] 1)
    let wanted : List Mark := [⟨0, 0, 1, "Keyword"⟩, ⟨1, 0, 1, "Keyword"⟩]
    after.outcomes = [.noChange, .partialUpdate 0 0 1] ∧
      before.highlighter.wanted Sample.files (sampleView ["k", "k"] 1) = .ok wanted ∧
      ¬ ∀ m ∈ wanted, m.line ≤ 1 → m ∈ after.marks 1 := by
  have hafter : (((sampleSession (sampleView ["k", "k"] 0)).ask Sample.files 1
      (sampleView ["k", "k"] 1)).outcomes, ((sampleSession (sampleView ["k", "k"] 0)).ask
        Sample.files 1 (sampleView ["k", "k"] 1)).marks 1) =
      ([.noChange, .partialUpdate 0 0 1], [⟨0, 0, 1, "Keyword"⟩]) := by cbv
  obtain ⟨houtcomes, hmarks⟩ := Prod.mk.inj hafter
  refine ⟨houtcomes, by cbv, fun hall => ?_⟩
  have hmissing := hall ⟨1, 0, 1, "Keyword"⟩ (by simp) (Nat.le_refl 1)
  rw [hmarks] at hmissing
  simp at hmissing

end Session

end Highlighting

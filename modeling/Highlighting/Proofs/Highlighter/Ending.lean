import Highlighting.Proofs.Highlighter.Containment
import Highlighting.Proofs.Highlighter.Rearranged
import Highlighting.Proofs.Scan.Nesting

/-! When a request comes to an end, and when reading its lines takes the program down. -/
namespace Highlighting

theorem Failure.isSkip_of_isAbort {failure : Failure} (h : failure.isAbort = true) :
    failure.isSkip = false := by
  cases failure with
  | tokenize => rfl
  | grammarNotFound | grammarLoad | highlightApply => cases h

theorem Grammar.isAbort_of_scanLines {g : Grammar} (hopen : g.CapturesOpen)
    (hroom : Stack.maxDepth ≤ g.engine.room) {lines : List String} {first : Nat} {stack : Stack}
    {cache : PatternCache} {failure : Failure}
    (hfails : g.scanLines first stack lines cache = .error failure) : failure.isAbort = false := by
  obtain ⟨line, fault, rfl, text, stack, cache, hfault⟩ := Grammar.scanLines_error hfails
  have hne := Grammar.scanLineWithin_ne_exhausted hopen hroom text stack cache
  cases fault with
  | exhausted => exact absurd hfault hne
  | noProgress | tooDeep | badPattern => rfl

namespace Tokenizer

def reads (t : Tokenizer) (files : Files) (path : Path) (lines : List String) :
    Except Failure Unit :=
  match t.scopeName files path with
  | (.error failure, _) => .error failure
  | (.ok name, t) => (t.scan files name lines).map fun _ => ()

variable {files : Files} {t t' : Tokenizer}

/-- Whatever a buffer keeps, its lines can be read exactly if they can be read from scratch. -/
theorem Coherent.readAs_parse (h : t.Coherent) (files : Files) (path : Path) (buffer : Nat)
    (lines : List String) :
    (t.readAs files path fun t name => t.parse files buffer name lines).1.map (fun _ => ()) =
      t.reads files path lines := by
  have hnamed : (t.scopeName files path).2.Coherent := h.step files (.scopeName path)
  unfold readAs reads
  generalize t.scopeName files path = r at hnamed
  obtain ⟨_ | name, t⟩ := r
  · rfl
  · dsimp only
    obtain ⟨failure, hs, hp⟩ | ⟨g, tokens, ends, hs, hp⟩ :=
      Coherent.parse_scan hnamed files buffer name lines <;> rw [hs, hp] <;> rfl

theorem readAs_tokenize (t : Tokenizer) (files : Files) (path : Path) (lines : List String) :
    (t.readAs files path fun t name => t.tokenize files name lines).1.map (fun _ => ()) =
      t.reads files path lines := by
  unfold readAs reads
  rcases t.scopeName files path with ⟨_ | name, t⟩
  · rfl
  · dsimp only
    rw [tokenize_scan]
    cases t.scan files name lines <;> rfl

theorem Agree.reads_eq {S : Nat → Prop} (h : Agree files S t t') {path : Path}
    (hpath : files.exists? path = true) (lines : List String) :
    t.reads files path lines = t'.reads files path lines := by
  have hname := h.scopeName_fst hpath
  have named := h.scopeName hpath
  unfold reads
  generalize t.scopeName files path = r at hname named
  generalize t'.scopeName files path = r' at hname named
  obtain ⟨result, t⟩ := r
  obtain ⟨result', t'⟩ := r'
  obtain rfl : result = result' := hname
  cases result with
  | error failure => rfl
  | ok name =>
    dsimp only
    rw [scan, scan, named.load_fst]

end Tokenizer

namespace Highlighter
variable {h : Highlighter} {files : Files} {path : Path}

theorem conclude_ne_aborted {outcome : Outcome} (ho : outcome ≠ .aborted)
    (made : Option String × MarkStore × Host) : (h.conclude outcome made).1 ≠ .aborted := by
  rcases made with ⟨_ | reason, store, host⟩
  · exact ho
  · nofun

/-- How a request for marks ends, when the file is there: on the spot, or with the calls of a
plan. -/
theorem highlight_ends (coherent : h.tokenizer.Coherent) (hon : h.disabled = false)
    (hfound : files.exists? path = true) (buffer : Nat) (lines : List String) (visibleEnd : Nat)
    (refresh : Bool) :
    (∃ failure h', h.tokenizer.reads files path lines = .error failure ∧
      ∀ host, h.highlight files host buffer path lines visibleEnd refresh =
        giveUp h' host failure) ∨
    ∃ h' outcome calls, h.tokenizer.reads files path lines = .ok () ∧ outcome.Answered ∧
      ∀ host, h.highlight files host buffer path lines visibleEnd refresh =
        conclude h' outcome (h'.store.callAll host calls) := by
  have hreads := coherent.readAs_parse files path buffer lines
  have heq := fun host => highlight_eq h host hon hfound buffer lines visibleEnd refresh
  generalize (h.tokenizer.readAs files path fun t name => t.parse files buffer name lines) = read
    at hreads heq
  obtain ⟨failure | ⟨name, parsed⟩, t⟩ := read
  · exact .inl ⟨failure, _, hreads.symm, heq⟩
  · obtain ⟨answered, -⟩ := answer_decide (h.rules.resolve name) parsed.tokens visibleEnd
      parsed.changeStart refresh
    exact .inr ⟨_, _, _, hreads.symm, answered, heq⟩

/-- The lines of a request cannot be read. -/
def ReadFails (h : Highlighter) (files : Files) : Request → Failure → Prop
  | .highlight _ path lines _ _, failure =>
    h.disabled = false ∧ files.exists? path = true ∧
      h.tokenizer.reads files path lines = .error failure
  | .showScope _ path lines, failure =>
    files.exists? path = true ∧ h.tokenizer.reads files path lines = .error failure
  | .undecorate .., _ | .close _, _ => False

theorem giveUp_of_abort {failure : Failure} (habort : failure.isAbort = true) (h : Highlighter)
    (host : Host) : h.giveUp host failure = (.aborted, h, host) := by
  rw [giveUp, failure.isSkip_of_isAbort habort, habort]
  rfl

theorem giveUp_ne_aborted {failure : Failure} (habort : failure.isAbort = false) (h : Highlighter)
    (host : Host) : (h.giveUp host failure).1 ≠ .aborted := by
  rw [giveUp, habort]
  split
  · nofun
  · nofun

theorem present_aborted_iff (host : Host) (result : Except Failure (String × List Token)) :
    (present host result).1 = .aborted ↔
      ∃ failure, result.map (fun _ => ()) = .error failure ∧ failure.isAbort = true := by
  cases result with
  | error failure =>
    have houtcome : (present host (.error failure)).1 = .aborted ↔ failure.isAbort = true := by
      constructor
      · intro habort
        by_contra hgoes
        rw [Bool.not_eq_true] at hgoes
        rw [present, hgoes] at habort
        split at habort <;> cases habort
      · intro habort
        rw [present, failure.isSkip_of_isAbort habort, habort]
        rfl
    rw [houtcome]
    refine ⟨fun habort => ⟨failure, rfl, habort⟩, ?_⟩
    rintro ⟨failure', hf, habort⟩
    rwa [Except.error.inj hf]
  | ok shown =>
    refine iff_of_false ?_ (by rintro ⟨failure, hf, -⟩; cases hf)
    rw [present]
    split <;> simp

theorem highlight_aborted_iff (coherent : h.tokenizer.Coherent) (hon : h.disabled = false)
    (hfound : files.exists? path = true) (host : Host) (buffer : Nat) (lines : List String)
    (visibleEnd : Nat) (refresh : Bool) :
    (h.highlight files host buffer path lines visibleEnd refresh).1 = .aborted ↔
      ∃ failure, h.tokenizer.reads files path lines = .error failure ∧ failure.isAbort = true := by
  obtain ⟨failure, h', hreads, hends⟩ | ⟨h', outcome, calls, hreads, answered, hends⟩ :=
    highlight_ends coherent hon hfound buffer lines visibleEnd refresh
  · rw [hends, hreads]
    constructor
    · intro habort
      refine ⟨failure, rfl, ?_⟩
      by_contra hgoes
      exact giveUp_ne_aborted (Bool.eq_false_iff.2 hgoes) h' host habort
    · rintro ⟨failure', hfails, habort⟩
      rw [giveUp_of_abort (Except.error.inj hfails ▸ habort)]
  · rw [hends, hreads]
    have hne : outcome ≠ .aborted := by
      rintro rfl
      cases answered
    refine iff_of_false (conclude_ne_aborted hne _) ?_
    rintro ⟨failure, hfails, -⟩
    cases hfails

/-- A request takes the program down exactly if reading its lines does. -/
theorem handle_aborted_iff (coherent : h.tokenizer.Coherent) (files : Files) (host : Host)
    (request : Request) :
    (h.handle files host request).1 = .aborted ↔
      ∃ failure, h.ReadFails files request failure ∧ failure.isAbort = true := by
  cases request with
  | highlight buffer path lines visibleEnd refresh =>
    rw [handle]
    cases hon : h.disabled with
    | true =>
      rw [highlight_of_disabled h host hon]
      simp [ReadFails, hon]
    | false =>
      cases hfound : files.exists? path with
      | false =>
        rw [highlight_of_missing h host hon hfound]
        simp [ReadFails, hfound]
      | true =>
        rw [highlight_aborted_iff coherent hon hfound]
        simp [ReadFails, hon, hfound]
  | undecorate buffer range =>
    rw [handle, undecorate_eq]
    refine iff_of_false (conclude_ne_aborted (by simp) _) ?_
    rintro ⟨_, hfails, -⟩
    exact hfails
  | showScope buffer path lines =>
    rw [handle]
    cases hfound : files.exists? path with
    | false =>
      rw [showScope_of_missing h host hfound]
      simp [ReadFails, hfound]
    | true =>
      rw [showScope_eq h host hfound]
      dsimp only
      rw [present_aborted_iff, Tokenizer.readAs_tokenize]
      simp [ReadFails, hfound]
  | close buffer => simp [handle, ReadFails]

theorem host_of_aborted {host : Host} {request : Request}
    (habort : (h.handle files host request).1 = .aborted) :
    (h.handle files host request).2.2 = host := by
  cases request with
  | highlight buffer path lines visibleEnd refresh =>
    let v : View := ⟨path, lines, visibleEnd, refresh⟩
    change (h.serve files host buffer v).1 = .aborted at habort
    change (h.serve files host buffer v).2.2 = host
    obtain ⟨reason, tokenizer, calls, -, hs⟩ | ⟨tokenizer, -, hs⟩ |
      ⟨failure, tokenizer, calls, -, -, hs⟩ | ⟨scopeName, parsed, tokenizer, parses⟩ :=
      h.serve_cases files host buffer v
    · rw [hs]
    · rw [hs]
    · rw [hs] at habort
      cases habort
    · rw [parses.serve_eq, carryOut_eq] at habort
      obtain ⟨answered, -⟩ := answer_decide (h.rules.resolve scopeName) parsed.tokens v.visibleEnd
        parsed.changeStart v.refresh
      refine absurd habort (conclude_ne_aborted (fun heq => ?_) _)
      rw [heq] at answered
      cases answered
  | undecorate buffer range =>
    rw [handle, undecorate_eq] at habort
    exact absurd habort (conclude_ne_aborted (by simp) _)
  | showScope buffer path lines =>
    rw [handle] at habort ⊢
    cases hfound : files.exists? path with
    | false => rw [showScope_of_missing h host hfound]
    | true =>
      rw [showScope_eq h host hfound] at habort ⊢
      generalize h.tokenizer.readAs files path (fun t name => t.tokenize files name lines) = read
        at habort ⊢
      obtain ⟨failure | shown, t⟩ := read
      · rfl
      · obtain ⟨failure, hf, -⟩ := (present_aborted_iff host (.ok shown)).1 habort
        cases hf
  | close buffer => rfl

/-- No grammar that there is can take the program down: captured text is scanned with no rule that
has an end, and scans have room for as many others in them as there may be regions. -/
structure Bounded (files : Files) (h : Highlighter) : Prop where
  coherent : h.tokenizer.Coherent
  fits : h.tokenizer.registry.Fits files
  grammars : ∀ name g, (h.tokenizer.registry.load files name).1 = .ok g →
    g.CapturesOpen ∧ Stack.maxDepth ≤ g.engine.room

theorem Bounded.scan (b : Bounded files h) (name : String) (lines : List String) {failure : Failure}
    (hfails : h.tokenizer.scan files name lines = .error failure) : failure.isAbort = false := by
  rw [Tokenizer.scan] at hfails
  cases hload : (h.tokenizer.registry.load files name).1 with
  | error failure' =>
    rw [hload] at hfails
    obtain rfl : failure' = failure := Except.error.inj hfails
    obtain ⟨scopeName, fault, rfl⟩ := Registry.load_error hload
    rfl
  | ok g =>
    obtain ⟨hopen, hroom⟩ := b.grammars name g hload
    rw [hload] at hfails
    exact Grammar.isAbort_of_scanLines hopen hroom hfails

theorem Bounded.reads (b : Bounded files h) (hpath : files.exists? path = true)
    (lines : List String) {failure : Failure}
    (hfails : h.tokenizer.reads files path lines = .error failure) : failure.isAbort = false := by
  have named := Tokenizer.agree_scopeName (S := fun _ => True) b.fits hpath
  cases hname : h.tokenizer.scopeName files path with
  | mk result t =>
    rw [hname] at named
    rw [Tokenizer.reads, hname] at hfails
    cases result with
    | error failure' =>
      obtain rfl : failure' = failure := Except.error.inj hfails
      rw [Registry.scopeName_error (congrArg Prod.fst hname)]
      rfl
    | ok name =>
      dsimp only at hfails
      rw [Tokenizer.scan, ← named.load_fst, ← Tokenizer.scan] at hfails
      cases hscan : h.tokenizer.scan files name lines with
      | error failure' =>
        rw [hscan] at hfails
        exact Except.error.inj hfails ▸ b.scan name lines hscan
      | ok r =>
        rw [hscan] at hfails
        cases hfails

theorem Bounded.handle (b : Bounded files h) (host : Host) (request : Request) :
    (h.handle files host request).1 ≠ .aborted ∧
      Bounded files (h.handle files host request).2.1 := by
  constructor
  · intro habort
    obtain ⟨failure, hfails, hgone⟩ := (handle_aborted_iff b.coherent files host request).1 habort
    have hends : ∀ path lines, files.exists? path = true →
        h.tokenizer.reads files path lines = .error failure → False := by
      intro path lines hpath hreads
      rw [b.reads hpath lines hreads] at hgone
      cases hgone
    cases request with
    | highlight buffer path lines visibleEnd refresh =>
      obtain ⟨-, hpath, hreads⟩ := hfails
      exact hends path lines hpath hreads
    | showScope buffer path lines => exact hends path lines hfails.1 hfails.2
    | undecorate | close => exact hfails
  · have kept : Agree files (fun _ => False) h (h.handle files host request).2.1 :=
      agree_handle b.fits host (.inl not_false)
    obtain ⟨calls, htokenizer, -⟩ := h.handle_parts files host request
    refine ⟨htokenizer ▸ b.coherent.run calls, kept.tokenizer.right, fun name g hload => ?_⟩
    rw [← kept.tokenizer.load_fst] at hload
    exact b.grammars name g hload

end Highlighter

end Highlighting

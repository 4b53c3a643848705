import Highlighting.Proofs.Sample
import Highlighting.Proofs.Scan.Painting
import Highlighting.Proofs.Tokenizer.Run

/-! The tokens of a line leave no gap and do not overlap. -/
namespace Highlighting

/-- Pieces, last first, that follow one another from the start of a line up to a place. -/
def ScopedSpan.TileUpTo : (stop : Nat) → List ScopedSpan → Prop
  | stop, [] => stop = 0
  | stop, s :: rest => s.stop = stop ∧ s.start < s.stop ∧ TileUpTo s.start rest

structure Paint.Tiled (limit : Nat) (p : Paint) : Prop where
  limit_eq : p.limit = limit
  last_le : p.last ≤ limit
  tile : ScopedSpan.TileUpTo p.last p.spans

theorem Paint.fresh_tiled (limit : Nat) : (Paint.fresh limit).Tiled limit :=
  ⟨rfl, Nat.zero_le _, rfl⟩

theorem Paint.upTo_tiled (limit : Nat) : Paint.Kept (Paint.Tiled limit) := by
  intro p place scopes h
  have hl := h.limit_eq
  have hle := h.last_le
  unfold Paint.upTo
  dsimp only
  split
  · next hlt => exact ⟨hl, by dsimp only; omega, rfl, hlt, h.tile⟩
  · exact h

theorem Paint.Tiled.upTo_end {limit place : Nat} {p : Paint} (h : p.Tiled limit)
    (hp : limit ≤ place) (scopes : Scopes) :
    ScopedSpan.TileUpTo limit (p.upTo place scopes).spans := by
  have hl := h.limit_eq
  have hle := h.last_le
  unfold Paint.upTo
  dsimp only
  split
  · next hlt => exact ⟨by dsimp only; omega, hlt, h.tile⟩
  · have he : p.last = limit := by omega
    exact he ▸ h.tile

namespace Token

def Tile (line length : Nat) : (column : Nat) → List Token → Prop
  | column, [] => column = length
  | column, t :: rest =>
    t.line = line ∧ t.column = column ∧ 0 < t.length ∧ Tile line length t.endColumn rest

theorem Tile.line_eq {line length column : Nat} {tokens : List Token}
    (h : Tile line length column tokens) : ∀ t ∈ tokens, t.line = line := by
  induction tokens generalizing column with
  | nil => intro t ht; cases ht
  | cons t rest ih =>
    obtain ⟨hl, -, -, hrest⟩ := h
    exact List.forall_mem_cons.2 ⟨hl, ih hrest⟩

theorem Tile.column_le {line length column : Nat} {tokens : List Token}
    (h : Tile line length column tokens) : ∀ t ∈ tokens, column ≤ t.column := by
  induction tokens generalizing column with
  | nil => intro t ht; cases ht
  | cons t rest ih =>
    obtain ⟨-, hc, hpos, hrest⟩ := h
    refine List.forall_mem_cons.2 ⟨Nat.le_of_eq hc.symm, fun u hu => ?_⟩
    have hu := ih hrest u hu
    unfold endColumn at hu
    omega

def Before (a b : Token) : Prop := a.line < b.line ∨ a.line = b.line ∧ a.column < b.column

theorem Tile.pairwise {line length column : Nat} {tokens : List Token}
    (h : Tile line length column tokens) : tokens.Pairwise Before := by
  induction tokens generalizing column with
  | nil => exact .nil
  | cons t rest ih =>
    obtain ⟨hl, -, hpos, hrest⟩ := h
    refine .cons (fun u hu => .inr ⟨?_, ?_⟩) (ih hrest)
    · rw [hl, hrest.line_eq u hu]
    · have hu := hrest.column_le u hu
      unfold endColumn at hu
      omega

theorem Tile.of_spans {line length stop : Nat} {spans : List ScopedSpan} {rest : List Token}
    (h : ScopedSpan.TileUpTo stop spans) (hrest : Tile line length stop rest) :
    Tile line length 0 (spans.reverse.map (ofSpan line) ++ rest) := by
  induction spans generalizing stop rest with
  | nil =>
    cases h
    exact hrest
  | cons s spans ih =>
    obtain ⟨rfl, hlt, hs⟩ := h
    have hend : (ofSpan line s).endColumn = s.stop := by
      change s.start + (s.stop - s.start) = s.stop
      omega
    have hlen : 0 < (ofSpan line s).length := Nat.sub_pos_of_lt hlt
    have htail : Tile line length s.start (ofSpan line s :: rest) :=
      ⟨rfl, rfl, hlen, hend ▸ hrest⟩
    simpa using ih hs htail

/-- Tokens that tile some lines, the first of which has a given number: on each line they follow
one another from column 0 to the line's end, and they stand in the order of the text. -/
structure TileLines (first : Nat) (lines : List String) (tokens : List Token) : Prop where
  tile : ∀ i (h : i < lines.length),
    Tile (first + i) lines[i].length 0 (tokens.filter fun t => t.line = first + i)
  inLines : ∀ t ∈ tokens, first ≤ t.line ∧ t.line < first + lines.length
  ordered : tokens.Pairwise Before

theorem TileLines.nil (first : Nat) : TileLines first [] [] where
  tile i h := absurd h (Nat.not_lt_zero i)
  inLines t ht := by cases ht
  ordered := .nil

theorem TileLines.cons {first : Nat} {text : String} {lines : List String}
    {here rest : List Token} (hh : Tile first text.length 0 here)
    (hr : TileLines (first + 1) lines rest) : TileLines first (text :: lines) (here ++ rest) where
  tile i h := by
    rw [List.filter_append]
    cases i with
    | zero =>
      have hall : here.filter (fun t => t.line = first + 0) = here :=
        List.filter_eq_self.2 fun t ht => by simp [hh.line_eq t ht]
      have hnone : rest.filter (fun t => t.line = first + 0) = [] :=
        List.filter_eq_nil_iff.2 fun t ht => by
          have := (hr.inLines t ht).1
          simp only [decide_eq_true_eq]
          omega
      rw [hall, hnone, List.append_nil]
      exact hh
    | succ i =>
      have hnone : here.filter (fun t => t.line = first + (i + 1)) = [] :=
        List.filter_eq_nil_iff.2 fun t ht => by
          have := hh.line_eq t ht
          simp only [decide_eq_true_eq]
          omega
      have hi := hr.tile i (Nat.lt_of_succ_lt_succ h)
      rw [Nat.add_assoc, Nat.add_comm 1 i] at hi
      rw [hnone, List.nil_append]
      exact hi
  inLines t ht := by
    rw [List.length_cons]
    rcases List.mem_append.1 ht with ht | ht
    · have := hh.line_eq t ht
      omega
    · have := hr.inLines t ht
      omega
  ordered := by
    refine List.pairwise_append.2 ⟨hh.pairwise, hr.ordered, fun a ha b hb => .inl ?_⟩
    have := hh.line_eq a ha
    have := (hr.inLines b hb).1
    omega

end Token

namespace Grammar
variable (g : Grammar)

/-- The pieces of a scanned line tile it. -/
theorem scanLine_tile (line : List Char) (stack : Stack) (number : Nat) :
    (g.scanLine line stack).Ensures
      fun r => Token.Tile number line.length 0 (r.1.map (Token.ofSpan number)) := by
  refine ⟨fun cache r rest hr => ?_⟩
  obtain ⟨p, scopes, hp, he⟩ :=
    (scanLine_keeps (Paint.upTo_tiled line.length) g.engine.room line stack
      (Paint.fresh_tiled line.length)).result cache r rest hr
  have hend := hp.upTo_end (Nat.le_succ line.length) scopes
  have htile := Token.Tile.of_spans hend
    (show Token.Tile number line.length line.length [] from rfl)
  rw [List.append_nil] at htile
  rw [he]
  exact htile

theorem scanLines_tile {lines : List String} {first : Nat} {stack : Stack}
    {cache : PatternCache} {tokens : List (List Token)} {ends : List Stack}
    (h : g.scanLines first stack lines cache = .ok (tokens, ends)) :
    Token.TileLines first lines tokens.flatten := by
  induction lines generalizing first stack cache tokens ends with
  | nil => cases h; exact .nil first
  | cons text lines ih =>
    rw [scanLines] at h
    split at h
    · cases h
    · next spans after cache' hs =>
      cases hr : g.scanLines (first + 1) after lines cache' with
      | error failure => rw [hr] at h; cases h
      | ok r =>
        rw [hr] at h
        cases h
        have hline := (g.scanLine_tile text.toList stack first).result _ _ _ hs
        rw [String.length_toList] at hline
        exact .cons hline (ih hr)

end Grammar

namespace Tokenizer

/-- Tokens tile the lines that they come from: with any grammar, from any stack on, in a parse
after any calls and in a scan from scratch. -/
theorem tokens_tile_lines (registry : Registry) (calls : List (Files × Call)) (files : Files)
    (scopeName : String) (lines : List String) :
    let t : Tokenizer := run { registry := registry } calls
    (∀ buffer parsed, (t.parse files buffer scopeName lines).1 = .ok parsed →
      Token.TileLines 0 lines parsed.tokens) ∧
    (∀ tokens, (t.tokenize files scopeName lines).1 = .ok tokens →
      Token.TileLines 0 lines tokens) ∧
    ∀ (g : Grammar) (first : Nat) (stack : Stack) (cache : PatternCache)
      (tokens : List (List Token)) (ends : List Stack),
      g.scanLines first stack lines cache = .ok (tokens, ends) →
      Token.TileLines first lines tokens.flatten := by
  intro t
  have ht : t.Coherent := (coherent_of_registry registry).run calls
  have scratch : ∀ tokens, (t.tokenize files scopeName lines).1 = .ok tokens →
      Token.TileLines 0 lines tokens := by
    intro tokens h
    rw [tokenize_fst] at h
    cases hl : (t.registry.load files scopeName).1 with
    | error failure => rw [hl] at h; cases h
    | ok g =>
      rw [hl, Except.bind] at h
      cases hs : g.scanLines 0 (.initial g) lines {} with
      | error failure => rw [hs] at h; cases h
      | ok r =>
        rw [hs] at h
        cases h
        exact g.scanLines_tile hs
  refine ⟨fun buffer parsed h => ?_, scratch, fun g first stack cache tokens ends =>
    g.scanLines_tile⟩
  apply scratch
  rw [← ht.parse_tokens files buffer, h]
  rfl

theorem tokens_tile_lines_edited :
    let t : Tokenizer := run { registry := Sample.registry }
      [(Sample.files, .parse 1 "source.k" ["é k", "k"])]
    let parsed : Parsed := ⟨[⟨["source.k"], 0, 0, 2⟩, ⟨["source.k", "keyword.k"], 0, 2, 1⟩], some 1⟩
    (t.parse Sample.files 1 "source.k" ["é k", ""]).1 = .ok parsed ∧
      Token.TileLines 0 ["é k", ""] parsed.tokens := by
  have h : ((run { registry := Sample.registry }
      [(Sample.files, .parse 1 "source.k" ["é k", "k"])]).parse Sample.files 1 "source.k"
      ["é k", ""]).1 = .ok
        ⟨[⟨["source.k"], 0, 0, 2⟩, ⟨["source.k", "keyword.k"], 0, 2, 1⟩], some 1⟩ := by cbv
  exact ⟨h, (tokens_tile_lines Sample.registry _ Sample.files "source.k" _).1 1 _ h⟩

end Tokenizer

end Highlighting

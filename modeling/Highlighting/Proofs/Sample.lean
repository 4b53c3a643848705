import Highlighting.Highlighter
import Highlighting.Pattern.Match
import Mathlib

/-! A small language for worked instances: in its files, each `k` is a keyword. -/
namespace Highlighting.Sample

def character (c : Char) : Matcher where
  groupCount := 0
  search text position :=
    ((List.range text.size).find? fun i => position ≤ i && text[i]? == some c).map fun i =>
      ⟨⟨i, i + 1⟩, []⟩

def engine : Engine where
  compile? source := source.toList.head?.map character
  room := Stack.maxDepth

def grammar : Grammar where
  scopeName := "source.k"
  rules := #[.container [1], .single (some "keyword.k") (character 'k') []]
  candidates := #[[1], []]
  root := 0
  engine := engine

/-- A bracket ends with the text of a group that what opens it does not have, so it cannot be open
on a line. -/
def brackets : Grammar where
  scopeName := "source.b"
  rules := #[.container [1, 2], .single (some "keyword.b") (character 'k') [],
    .block ⟨none, none, character '(', [], []⟩ (some ⟨"\\1", none⟩) [] false]
  candidates := #[[1, 2], [], []]
  root := 0
  engine := engine

/-- Quotes go on as long as lines start with `>`; brackets in them may be left open. -/
def quotes : Grammar where
  scopeName := "source.q"
  rules := #[.container [1, 2],
    .block ⟨some "meta.bracket", some "inner text", character '(', [], [1]⟩ (some ⟨")\\0", none⟩) []
      false,
    .lines ⟨some "quote", none, character '>', [], [1]⟩ ⟨">", some (character '>')⟩ []]
  candidates := #[[1, 2], [1], [1]]
  root := 0
  engine := engine

def replies : Grammar where
  scopeName := "source.r"
  rules := #[.container [1, 2],
    .lines ⟨some "quote", none, character '>', [], [1, 2]⟩ ⟨">", some (character '>')⟩ [],
    .block ⟨some "bracket", none, character '(', [], [1, 2]⟩
      (some ⟨")", some (character ')')⟩) [] false]
  candidates := #[[1, 2], [1, 2], [1, 2]]
  root := 0
  engine := engine

/-- The rule `a` leads to the rule `b`, which is `outer`. A region that leads to `a` has a rule `b`
of its own, which is `inner`. -/
def shadowing (patterns : List Nat) : Library :=
  [("source.t",
    { scopeName := "source.t"
      patterns := patterns
      repository := [("a", 4), ("b", 5)]
      rules := #[{ reference := some "#a" }, { matchPattern := some "k", name := some "inner" },
        { beginPattern := some "(", endPattern := some ")", patterns := some [0],
          repository := some [("b", 1)] },
        { reference := some "#b" }, { patterns := some [3] },
        { matchPattern := some "k", name := some "outer" }, { reference := some "#a" }] })]

/-- Captures may lead to the rule `a` from two rules, one of which may have names of its own. The
rule `a` leads to the rule `b`, which is `outer`. -/
def sharingFile (own : Option RuleNames) (captures : RuleNames) : GrammarSource where
  scopeName := "source.t"
  patterns := [0, 6]
  repository := [("a", 8), ("b", 9)]
  rules := #[{ matchPattern := some "x()", captures := some captures },
    { patterns := some [3], repository := own }, { patterns := some [5] },
    { reference := some "#a" }, { matchPattern := some "k", name := some "inner" },
    { reference := some "#a" }, { reference := some "#a" }, { reference := some "#b" },
    { patterns := some [7] }, { matchPattern := some "k", name := some "outer" }]

def sharing (own : Option RuleNames) (captures : RuleNames) : Library :=
  [("source.t", sharingFile own captures)]

def naming (captures : RuleNames) : Library :=
  [("source.t",
    { scopeName := "source.t"
      patterns := [0]
      repository := []
      rules := #[{ matchPattern := some "k", captures := some captures }, { name := some "first" },
        { name := some "last" }] })]

def aliasing (reference : String) : Library :=
  [("source.t",
    { scopeName := "source.t"
      patterns := [0]
      repository := [("a", 1), ("b", 2)]
      rules := #[{ reference := some reference }, { reference := some "#b" },
        { matchPattern := some "k", name := some "keyword.k" }] })]

/-- Two files in a circle: a bracket of the first one leads to a rule of the second one, which leads
back to the first one, and what the bracket itself takes leads there by a rule of its own. -/
def circular : Library :=
  [("source.a",
    { scopeName := "source.a"
      patterns := [3]
      repository := [("x", 5)]
      rules := #[{ reference := some "source.b#y" }, { reference := some "#x" },
        { patterns := some [1] },
        { beginPattern := some "(", endPattern := some ")", patterns := some [0],
          captures := some [("0", 2)] },
        { reference := some "source.b" }, { patterns := some [4] }] }),
    ("source.b",
    { scopeName := "source.b"
      patterns := [0]
      repository := [("y", 2)]
      rules := #[{ reference := some "$base" }, { reference := some "source.a" },
        { patterns := some [1] }] })]

def pattern (source : String) : Matcher :=
  (Pattern.engine.compile? source).getD ⟨0, fun _ _ => none⟩

/-- A match at the end of a line captures the text before it, which is scanned with a rule that ends
at its first character. -/
def behindFile : Library :=
  [("source.e",
    { scopeName := "source.e"
      patterns := [0]
      repository := []
      rules := #[{ matchPattern := some "(?<=(ba))$", captures := some [("1", 1)] },
        { beginPattern := some "x", endPattern := some "b", patterns := some [] }] })]

def behind : Grammar where
  scopeName := "source.e"
  rules := #[.container [1], .single none (pattern "(?<=(ba))$") [{}, { patterns := some 2 }],
    .block ⟨none, none, pattern "x", [], []⟩ (some ⟨"b", some (pattern "b")⟩) [] false]
  candidates := #[[1], [], []]
  root := 0
  engine := Pattern.engine

def withinFile : Library :=
  [("source.w",
    { scopeName := "source.w"
      patterns := [0]
      repository := []
      rules := #[{ matchPattern := some "k+", captures := some [("0", 1)] },
        { patterns := some [2] }, { reference := some "$self" }] })]

def within : Grammar where
  scopeName := "source.w"
  rules := #[.container [1], .single none (pattern "k+") [{ patterns := some 2 }], .container [0]]
  candidates := #[[1], [], [1]]
  root := 0
  engine := Pattern.engine

def before (c : Char) : Matcher where
  groupCount := 0
  search text position :=
    ((List.range text.size).find? fun i => position ≤ i && text[i]? == some c).map fun i =>
      ⟨⟨i, i⟩, []⟩

def looking : Engine where
  compile? source :=
    if source.startsWith "(?=" then source.toList[3]?.map before else source.toList.head?.map
      character
  room := Stack.maxDepth

def level (inner : Nat) : RuleSource :=
  { beginPattern := some "(?=a)", endPattern := some "(?=b)", patterns := some [inner] }

/-- Levels in each other, and an `a` in the last one. Outside, `b` is matched. -/
def towerFile (levels : Nat) : Library :=
  [("source.t",
    { scopeName := "source.t"
      patterns := [0, levels + 1]
      repository := []
      rules := ((List.range levels).map fun k => level (k + 1)).toArray ++
        #[{ matchPattern := some "a", name := some "a" },
          { matchPattern := some "b", name := some "b" }] })]

def region (inner : Nat) : Rule :=
  .block ⟨none, none, before 'a', [], [inner]⟩ (some ⟨"(?=b)", some (before 'b')⟩) [] false

def tower (levels : Nat) : Grammar where
  scopeName := "source.t"
  rules := #[.container [1, levels + 2]] ++
    ((List.range levels).map fun k => region (k + 2)).toArray ++
    #[.single (some "a") (character 'a') [], .single (some "b") (character 'b') []]
  candidates := #[[1, levels + 2]] ++ ((List.range levels).map fun k => [k + 2]).toArray ++
    #[[], []]
  root := 0
  engine := looking

def peekingFile : Library :=
  [("source.p",
    { scopeName := "source.p"
      patterns := [0, 1]
      repository := []
      rules := #[{ matchPattern := some "a(?=(b))", captures := some [("1", 2)] },
        { matchPattern := some "b", name := some "kw" }, { name := some "cap" }] })]

def peeking : Grammar where
  scopeName := "source.p"
  rules := #[.container [1, 2],
    .single none (pattern "a(?=(b))") [{}, { name := some "cap" }],
    .single (some "kw") (pattern "b") []]
  candidates := #[[1, 2], [], []]
  root := 0
  engine := Pattern.engine

def pairs : Grammar where
  scopeName := "source.n"
  rules := #[.container [1, 2],
    .single (some "pair") (pattern "((a)(b)|(c))()")
      [{}, { name := some "both of" }, { name := some "first" }, { name := some "second" },
        { name := some "other" }, { name := some "empty" }],
    .lines ⟨some "quote", none, pattern ">", [], []⟩ ⟨"(>( ))", some (pattern "(>( ))")⟩
      [{ name := some "go" }, {}, { name := some "gap" }]]
  candidates := #[[1, 2], [], []]
  root := 0
  engine := Pattern.engine

def holdingFile : Library :=
  [("source.h",
    { scopeName := "source.h"
      patterns := [0]
      repository := []
      rules := #[
        { beginPattern := some "b", whilePattern := some "a(b)", patterns := some [],
          whileCaptures := some [("1", 1)] },
        { name := some "cap" }] })]

def holding : Grammar where
  scopeName := "source.h"
  rules := #[.container [1],
    .lines ⟨none, none, pattern "b", [], []⟩ ⟨"a(b)", some (pattern "a(b)")⟩
      [{}, { name := some "cap" }]]
  candidates := #[[1], []]
  root := 0
  engine := Pattern.engine

def leavingFile : Library :=
  [("source.l",
    { scopeName := "source.l"
      patterns := [0]
      repository := []
      rules := #[{ matchPattern := some "abc", captures := some [("0", 1)] },
        { name := some "cap", beginPattern := some "x", endPattern := some "b",
          patterns := some [] }] })]

def leaving : Grammar where
  scopeName := "source.l"
  rules := #[.container [1],
    .single none (pattern "abc") [{ name := some "cap", patterns := some 2 }],
    .block ⟨some "cap", none, pattern "x", [], []⟩ (some ⟨"b", some (pattern "b")⟩) [] false]
  candidates := #[[1], [], []]
  root := 0
  engine := Pattern.engine

def ringFile : Library :=
  [("source.r",
    { scopeName := "source.r"
      patterns := [0, 1]
      repository := [("c", 4), ("d", 7)]
      rules := #[{ reference := some "#c" }, { matchPattern := some "b" },
        { reference := some "#d" }, { matchPattern := some "k" }, { patterns := some [2, 3] },
        { reference := some "#c" }, { matchPattern := some "m" }, { patterns := some [5, 6] }] })]

def ring : Grammar where
  scopeName := "source.r"
  rules := #[.container [1, 5], .container [2, 4], .container [1, 3],
    .single none (character 'm') [], .single none (character 'k') [],
    .single none (character 'b') []]
  candidates := #[[3, 4, 5], [4, 3], [3, 4], [], [], []]
  root := 0
  engine := engine

def markedFile : Library :=
  [("source.m",
    { scopeName := "source.m"
      patterns := [0]
      repository := []
      rules := #[
        { beginPattern := some "<(k+)", endPattern := some "^\\1", patterns := some [],
          beginCaptures := some [("1", 1)] },
        { patterns := some [2] }, { matchPattern := some "k", name := some "keyword.m" }] })]

def marked : Grammar where
  scopeName := "source.m"
  rules := #[.container [1],
    .block ⟨none, none, pattern "<(k+)", [{}, { patterns := some 2 }], []⟩ (some ⟨"^\\1", none⟩) []
      false,
    .container [3], .single (some "keyword.m") (pattern "k") []]
  candidates := #[[1], [], [3], []]
  root := 0
  engine := Pattern.engine

def path : Path := ⟨"a.k"⟩

def files : Files := ⟨[("a.k", .file [])], []⟩

def registry : Registry where
  engine := engine
  roots := []
  grammars := ⟨[("source.k", grammar)]⟩
  resolved := ⟨[(path.components, "source.k")]⟩

def failing : Registry := { registry with grammars := ⟨[("source.b", brackets)]⟩ }

def rules : RuleTable := ⟨[(RuleTable.defaultName, ⟨[("keyword", "Keyword")]⟩)]⟩

def bytes (text : List Char) : List UInt8 := text.map fun c => c.toNat.toUInt8

def extension : Entry :=
  .folder [
    ("package.json", .file (bytes
      "[[[[\"k\",[],[\"a\"],\"k\"]],[[\"k\",\"source.k\",\"g.json\"]]]]".toList)),
    ("g.json", .file (bytes
      "[\"source.k\",null,[\x7b\"match\":\"k\",\"name\":\"keyword.k\"\x7d]]".toList))]

/-- The text of a grammar in which two captures lead to the rule `a`, one of them from a rule with a
name of its own. The rule `a` leads to the rule `b`, which is `outer`. -/
def grammarText (own : String) : List Char :=
  ["\x7b\"scopeName\":\"source.t\",\"patterns\":[\x7b\"match\":\"x()\",\"captures\":\x7b",
    "\"0\":\x7b\"patterns\":[\x7b\"include\":\"#a\"\x7d],\"repository\":\x7b\"", own,
    "\":\x7b\"match\":\"k\",\"name\":\"inner\"\x7d\x7d\x7d,",
    "\"1\":\x7b\"patterns\":[\x7b\"include\":\"#a\"\x7d]\x7d\x7d\x7d,\x7b\"include\":\"#a\"\x7d],",
    "\"repository\":\x7b\"a\":\x7b\"patterns\":[\x7b\"include\":\"#b\"\x7d]\x7d,",
    "\"b\":\x7b\"match\":\"k\",\"name\":\"outer\"\x7d\x7d\x7d"].flatMap String.toList

def source (own : String) : GrammarSource where
  scopeName := "source.t"
  patterns := [5, 6]
  repository := [("a", 8), ("b", 9)]
  rules := #[{ reference := some "#a" }, { matchPattern := some "k", name := some "inner" },
    { patterns := some [0], repository := some [(own, 1)] }, { reference := some "#a" },
    { patterns := some [3] },
    { matchPattern := some "x()", captures := some [("0", 2), ("1", 4)] },
    { reference := some "#a" }, { reference := some "#b" }, { patterns := some [7] },
    { matchPattern := some "k", name := some "outer" }]

def shared : Grammar where
  scopeName := "source.t"
  rules := #[.container [1, 3],
    .single none (pattern "x()") [{ patterns := some 2 }, { patterns := some 5 }],
    .container [3], .container [4], .single (some "outer") (pattern "k") [], .container [3]]
  candidates := #[[1, 4], [], [4], [4], [], [4]]
  root := 0
  engine := Pattern.engine

def sharer (own : String) : Entry :=
  .folder [
    ("package.json", .file (bytes
      "[[[[\"t\",[],[\"a\",\"c\"],\"k\"]],[[\"t\",\"source.t\",\"g.json\"]]]]".toList)),
    ("g.json", .file (bytes (grammarText own)))]

def installed (own content : String) : Files :=
  ⟨[("e", sharer own), ("a", .file []), ("c", .file []), ("b", .file (bytes content.toList))], []⟩

def sharedRules : RuleTable :=
  ⟨[(RuleTable.defaultName, ⟨[("outer", "Outer"), ("inner", "Inner")]⟩)]⟩

@[irreducible] def opened (own : String) (order : Arrangement) : Registry :=
  .new Pattern.engine (installed own "x") [⟨"e"⟩] order

theorem opened_eq (own : String) (order : Arrangement) :
    opened own order = .new Pattern.engine (installed own "x") [⟨"e"⟩] order := by
  rw [opened]

def refusing : Host where
  refuse
    | _, .addMarks .. => some "gone"
    | _, _ => none

end Highlighting.Sample

import Highlighting.Files
import Highlighting.Grammar.Fault
import Highlighting.Grammar.Source
import Highlighting.Json.Document
import Highlighting.Unicode.Casing
import Highlighting.Yaml.Reader

/-! Reading a grammar from its file, the name of which tells the format. -/
namespace Highlighting

def endsIn (text ending : String) : Bool := ending.toList.isSuffixOf text.toList

namespace GrammarSource

def ofFile (files : Files) (path : Path) : Except GrammarFault GrammarSource :=
  match files.text? path with
  | none => .error (.unreadable path)
  | some text =>
    let name := Unicode.toLower (path.fileName?.getD "")
    let result :=
      if endsIn name ".json" then some (Json.decode? decode text)
      else if endsIn name ".yaml" || endsIn name ".yml" then some (Yaml.decode? decode text)
      else none
    match result with
    | none => .error (.unsupported path)
    | some none => .error (.malformed path)
    | some (some source) => .ok source

end GrammarSource

end Highlighting

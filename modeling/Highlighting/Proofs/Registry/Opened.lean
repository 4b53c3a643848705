import Highlighting.Proofs.Registry.Rearranged
import Highlighting.Proofs.Scan.Captured
import Highlighting.Proofs.Sample

/-! A registry of the extension whose files share a grammar. -/
namespace Highlighting

namespace Sample

theorem ofFile_source {own : String} (h : own ∈ ["b", "c"]) :
    GrammarSource.ofFile (installed own "x") ⟨"e/g.json"⟩ = .ok (source own) := by
  have hname : (Path.mk "e/g.json").fileName? = some "g.json" ∧
      endsIn "g.json" ".json" = true := by decide +kernel
  have hlower : Unicode.toLower ((Path.mk "e/g.json").fileName?.getD "") = "g.json" := by
    rw [hname.1, Option.getD_some, toLower_source]
  have hread : ∀ own ∈ ["b", "c"],
      (installed own "x").text? ⟨"e/g.json"⟩ = some (grammarText own) ∧
        Json.decode? GrammarSource.decode (grammarText own) = some (source own) := by decide +kernel
  exact GrammarSource.ofFile_json (hread own h).1 hlower hname.2 (hread own h).2

theorem opened_written : ∀ own ∈ ["b", "c"],
    (opened own .written).sources.entries = [("source.t", ⟨"e/g.json"⟩)] ∧
      ∀ name ∈ ["a", "c"], (installed own "x").exists? ⟨name⟩ = true ∧
        (opened own .written).found? (installed own "x") ⟨name⟩ = some "source.t" := by
  decide +kernel

theorem opened_sources {own : String} (h : own ∈ ["b", "c"]) (order : Arrangement) :
    (opened own order).sources.entries = [("source.t", ⟨"e/g.json"⟩)] := by
  have hsources : (opened own order).sources = (opened own .written).sources := by
    rw [opened_eq, opened_eq, ← Registry.new_rearranged _ _ _ .written order,
      Registry.rearranged_sources]
  rw [hsources]
  exact (opened_written own h).1

theorem installed_exists {own : String} (hown : own ∈ ["b", "c"]) {name : String}
    (hname : name ∈ ["a", "c"]) : (installed own "x").exists? ⟨name⟩ = true :=
  ((opened_written own hown).2 name hname).1

theorem opened_unread (own : String) (order : Arrangement) : (opened own order).Unread := by
  rw [opened_eq]
  exact Registry.new_unread _ _ _ _

theorem unread_opened (own : String) (order : Arrangement) :
    (opened own order).unread = opened own order := by
  rw [opened_eq, Registry.unread_new]

theorem opened_load {own : String} (h : own ∈ ["b", "c"]) {order : Arrangement} {g : Grammar}
    (hg : (Grammar.compile Pattern.engine [("source.t", order.arrange "source.t" (source own))]
      "source.t").1 = .ok g) :
    ((opened own order).load (installed own "x") "source.t").1 = .ok g := by
  have hengine : (opened own order).engine = Pattern.engine := by
    rw [opened_eq, Registry.new_engine]
  have horder : (opened own order).order = order := by rw [opened_eq, Registry.new_order]
  refine (opened_unread own order).load_of_entries (opened_sources h order) (ofFile_source h) ?_
  rw [hengine, horder]
  exact hg

theorem opened_load_shared :
    ((opened "c" .written).load (installed "c" "x") "source.t").1 = .ok shared :=
  opened_load (by simp) (by cbv)

theorem shared_open : shared.CapturesOpen := by
  rintro rule ⟨id, c, hc, hrule⟩
  match id with
  | 0 | 2 | 3 | 4 | 5 | _ + 6 => cases hc
  | 1 =>
    obtain rfl | rfl : c = { patterns := some 2 } ∨ c = { patterns := some 5 } := by
      simpa using (show c ∈ [({ patterns := some 2 } : Capture), { patterns := some 5 }] from hc)
    · cases hrule
      rfl
    · cases hrule
      rfl

theorem opened_sources_eq {own : String} (h : own ∈ ["b", "c"]) (order : Arrangement) :
    (opened own order).sources = ⟨[("source.t", ⟨"e/g.json"⟩)]⟩ := by
  have hentries := opened_sources h order
  generalize (opened own order).sources = sources at hentries ⊢
  cases sources
  cases hentries
  rfl

def warm (r : Registry) (resolved : Table (List Path.Component) String) : Registry :=
  r.keeping ⟨[("source.t", ⟨"e/g.json"⟩)]⟩ ⟨[("source.t", shared)]⟩ resolved

theorem warm_unread (resolved : Table (List Path.Component) String) :
    (warm (opened "c" .written) resolved).unread = (opened "c" .written).unread :=
  Registry.keeping_unread _ (opened_sources_eq (by simp) .written) _ _

theorem warm_faithful (resolved : Table (List Path.Component) String) :
    (warm (opened "c" .written) resolved).Faithful (installed "c" "x") := by
  refine Registry.keeping_faithful (opened_sources_eq (by simp) .written) ?_ resolved
  rw [unread_opened]
  exact opened_load_shared

def sharedPaths : Table (List Path.Component) String :=
  ⟨[((Path.mk "a").components, "source.t"), ((Path.mk "c").components, "source.t")]⟩

theorem opened_found {own : String} (hown : own ∈ ["b", "c"]) {name : String}
    (hname : name ∈ ["a", "c"]) (order : Arrangement) :
    (opened own order).found? (installed own "x") ⟨name⟩ = some "source.t" := by
  rw [← ((opened_written own hown).2 name hname).2, opened_eq, opened_eq,
    (Registry.new_beside _ _ _ _ .written order).found?_eq]

theorem warm_fits :
    (warm (opened "c" .written) sharedPaths).Fits (installed "c" "x") where
  faithful := warm_faithful sharedPaths
  resolves := by
    refine Registry.resolves_of_found (fun name => installed_exists (by simp))
      (fun name hname => ?_)
      rfl
    rw [← Registry.found?_unread, warm_unread, Registry.found?_unread]
    exact opened_found (by simp) hname .written

end Sample

end Highlighting

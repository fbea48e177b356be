import ScopeAtlas.Proofs.Workspace.Discovery
import ScopeAtlas.Workspace.Survey

/-!
# Paths of reports

A source is reported under its absolute form as seen from the root.  For what is no link this is made
of the names that lead to it, so the sources of a directory without links are told apart by their
paths.  A link is reported under the path to which it leads, which can be that of another source.
-/

namespace ScopeAtlas.Language

open ScopeAtlas.Files

/-- The ending of a supported file is that of a language. -/
theorem Registry.exists_languageForPath {registry : Registry} {path : Path}
    (supported : registry.isSupported path = true) (read : Path.ofString path.render = path) :
    ∃ language, registry.languageForPath path.render = .ok language := by
  obtain ⟨language, found⟩ := Option.isSome_iff_exists.mp supported
  exact ⟨language, by rw [languageForPath, read, found]⟩

end ScopeAtlas.Language

namespace ScopeAtlas.Workspace

open ScopeAtlas.Data ScopeAtlas.Extraction ScopeAtlas.Files ScopeAtlas.Graph ScopeAtlas.Language

/-! ## Sources as they are reported -/

theorem afterStart?_eq_some_iff {α : Type} [BEq α] [LawfulBEq α] {start whole rest : List α} :
    afterStart? start whole = some rest ↔ whole = start ++ rest := by
  fun_induction afterStart? start whole with
  | case1 whole => simp [eq_comm]
  | case2 item start => simp
  | case3 item start other whole same ih =>
      rw [ih, eq_of_beq same, List.cons_append, List.cons_inj_right]
  | case4 item start other whole differ =>
      simp only [reduceCtorEq, List.cons_append, List.cons.injEq, false_iff, not_and]
      intro same
      exact absurd (beq_iff_eq.mpr same.symm) differ

/-- A path of names is not written as the empty text. -/
theorem render_ne_empty {path : Path} (named : ∀ name ∈ path.parts, IsName name) :
    path.render ≠ "" := by
  obtain ⟨anchor, parts⟩ := path
  rcases anchor
  · rcases parts with _ | ⟨name, rest⟩
    · decide
    · obtain ⟨c, later, text, _⟩ := Path.exists_start_intercalate (by simp) named
      rw [Path.render_relative (by simp)]
      intro blank
      rw [blank] at text
      contradiction
  · simp [Path.render, Anchor.render]
  · simp [Path.render, Anchor.render]

namespace IsSource

variable {system : FileSystem} {root : Path} {registry : Registry} {excluded : List String}
  {names : List String} {item : Item} (rooted : system.IsRoot root)
  (source : IsSource system registry root excluded names item)
include rooted source

theorem isName_of_mem : ∀ name ∈ root.parts ++ names, IsName name :=
  (rooted.sound.named.of_at? (source.at?_eq rooted)).2

/-- What is no link is reported under the names that lead to it. -/
theorem shownPath_eq (plain : ∀ target, item ≠ .link target) :
    shownPath system root (root.along names) = .ok (Path.render ⟨.relative, names⟩) := by
  have resolved : system.resolve (root.along names) = .ok ⟨.root, root.parts ++ names⟩ := by
    rw [rooted.resolve_along (source.at?_eq rooted)]
    cases item with
    | link target => exact absurd rfl (plain target)
    | _ => rfl
  rw [shownPath, resolved]
  simp only [afterStart?_eq_some_iff.mpr rfl]

/-- A source is reported, unless it is a link that leads back to itself. -/
theorem exists_shownPath_eq (ends : item ≠ .link none) :
    ∃ shown, shownPath system root (root.along names) = .ok shown ∧ shown ≠ "" := by
  have named := source.isName_of_mem rooted
  have itself : (root.along names).render ≠ "" := render_ne_empty named
  have ofParts (parts : List String) (isName : ∀ name ∈ parts, IsName name)
      (resolved : system.resolve (root.along names) = .ok ⟨.root, parts⟩) :
      ∃ shown, shownPath system root (root.along names) = .ok shown ∧ shown ≠ "" := by
    rw [shownPath, resolved]
    cases below : afterStart? root.parts parts with
    | none => exact ⟨_, by simp only [below], itself⟩
    | some rest =>
        refine ⟨Path.render ⟨.relative, rest⟩, by simp only [below],
          render_ne_empty fun name member => isName name ?_⟩
        rw [afterStart?_eq_some_iff.mp below]
        exact List.mem_append_right _ member
  have found := source.at?_eq rooted
  have resolved := rooted.resolve_along found
  rcases item with _ | _ | _ | _ | target
  · exact ofParts _ named resolved
  · exact ofParts _ named resolved
  · exact ofParts _ named resolved
  · contradiction
  · exact ofParts _ (rooted.sound.ends _ _ found).1 resolved

/-- What a survey makes of a source is what comes of reading it alone. -/
theorem surveyFile_eq (engine : Engine) (includeModuleScopes : Bool) {shown : String}
    (nonempty : shown ≠ "") :
    surveyFile system engine registry includeModuleScopes (root.along names) shown =
      (analyzeFile system engine registry includeModuleScopes (root.along names)
        (some shown)).mapError (Failure.toError shown) := by
  have read : Path.ofString (root.along names).render = root.along names := by
    rcases rooted.exists_follow_eq with ⟨_, _, anchored⟩
    rw [Path.along, anchored]
    exact Path.ofString_render_root (by simp [source.ne_nil]) (source.isName_of_mem rooted)
  obtain ⟨_, _, _, supported⟩ := source
  obtain ⟨language, spoken⟩ := Registry.exists_languageForPath supported read
  have named : ((some shown).bind nonEmpty?).getD (root.along names).render = shown := by
    simp [nonEmpty?, nonempty]
  rw [surveyFile, analyzeFile, spoken, named]
  cases readSource system (root.along names) <;> rfl

end IsSource

/-! ## Reports of a search -/

/-- No source is a link that leads back to itself, and no two of them are reported under one path. -/
structure TellsApart (system : FileSystem) (registry : Registry) (root : Path)
    (excluded : List String) : Prop where
  ends : ∀ names item, IsSource system registry root excluded names item → item ≠ .link none
  apart : ∀ names item others other shown, IsSource system registry root excluded names item →
    IsSource system registry root excluded others other →
    shownPath system root (root.along names) = .ok shown →
    shownPath system root (root.along others) = .ok shown → names = others

/-- Where the root holds no links, its sources are reported under different paths. -/
theorem tellsApart_of_unlinked {system : FileSystem} {registry : Registry} {root : Path}
    {excluded : List String} {top : Item} (rooted : system.IsRoot root)
    (there : system.item? root = some top) (unlinked : top.Unlinked) :
    TellsApart system registry root excluded := by
  have plain {names : List String} {item : Item}
      (source : IsSource system registry root excluded names item)
      (target : Option (List String)) : item ≠ .link target := by
    have found := source.at?_eq rooted
    rw [FileSystem.at?_append, ← rooted.item?_eq, there] at found
    exact (unlinked.of_at? found).ne_link target
  have isName {names : List String} {item : Item}
      (source : IsSource system registry root excluded names item) : ∀ name ∈ names, IsName name :=
    fun name member => source.isName_of_mem rooted name (List.mem_append_right _ member)
  refine ⟨fun names item source => plain source none, ?_⟩
  intro names item others other shown source otherSource isShown isShownAgain
  rw [source.shownPath_eq rooted (plain source)] at isShown
  rw [otherSource.shownPath_eq rooted (plain otherSource), ← isShown] at isShownAgain
  have read := Path.ofString_render source.ne_nil (isName source)
  have readAgain := Path.ofString_render otherSource.ne_nil (isName otherSource)
  rw [Except.ok.inj isShownAgain, read] at readAgain
  exact congrArg Path.parts readAgain

/-- The path under which a file is reported that leads somewhere. -/
def reported (system : FileSystem) (root path : Path) : String :=
  (shownPath system root path).toOption.getD ""

section Searched

variable {system : FileSystem} {root : Path} {registry : Registry} {excluded : List String}
  {limitKb : Measure} (rooted : system.IsRoot root)
  (apart : TellsApart system registry root excluded)
include rooted apart

theorem reported_spec {path : Path}
    (found : path ∈ (discover system registry root excluded limitKb).paths) :
    shownPath system root path = .ok (reported system root path) ∧ reported system root path ≠ "" := by
  obtain ⟨names, item, source, rfl⟩ := mem_discover_iff.mp found
  obtain ⟨shown, isShown, nonempty⟩ := source.exists_shownPath_eq rooted (apart.ends _ _ source)
  have same : reported system root (root.along names) = shown := by rw [reported, isShown]; rfl
  exact ⟨by rw [same, isShown], same ▸ nonempty⟩

/-- No two sources are reported under one path. -/
theorem reported_inj {first second : Path}
    (isFirst : first ∈ (discover system registry root excluded limitKb).paths)
    (isSecond : second ∈ (discover system registry root excluded limitKb).paths)
    (same : reported system root first = reported system root second) : first = second := by
  have firstShown := (reported_spec rooted apart isFirst).1
  have secondShown := (reported_spec rooted apart isSecond).1
  obtain ⟨names, item, source, rfl⟩ := mem_discover_iff.mp isFirst
  obtain ⟨others, other, otherSource, rfl⟩ := mem_discover_iff.mp isSecond
  rw [apart.apart _ _ _ _ _ source otherSource firstShown (same ▸ secondShown)]

omit apart in
theorem nodup_discover : (discover system registry root excluded limitKb).paths.Nodup :=
  (discover_perm limitKb).nodup_iff.mpr (nodup_sources rooted)

end Searched

end ScopeAtlas.Workspace

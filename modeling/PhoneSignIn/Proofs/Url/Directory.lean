import Mathlib.Data.List.TakeWhile
import Mathlib.Tactic.SplitIfs
import PhoneSignIn.Url.Parse

/-!
URLs whose text ends in a slash. What is read of a path that ends in a slash is a directory: its last name is
empty (`readPath_directory`). So is the path of every URL whose text ends in a slash and has no marks of a query
or a fragment, unless nothing leads on from it; only a scheme without hosts of its own that is followed by two
slashes and nothing else has no path at all (`parse_directory`). From a directory a path leads below it, with
every name of the directory before its own (`join_directory`).
-/
namespace PhoneSignIn

/-- A path that ends in a slash: its last name is empty. -/
def UrlPath.IsDirectory (p : UrlPath) : Prop := ∃ names, p = .segments names ∧ [""] <:+ names

namespace Url
open Text

variable {kind : SchemeKind} {cs : List Char} {u : Url}

/-- Nothing stands behind the two slashes of a scheme without hosts of its own. -/
def IsBare (u : Url) : Prop :=
  schemeKind u.scheme = .other ∧ u.authority = some { host := .domain "" } ∧ u.path = .segments []

/-! ### Texts that end in a slash -/

/-- The end of a list is the end of every part that reaches to it. -/
theorem ends_of_suffix {a : α} {l r : List α} (ends : [a] <:+ l) (reaches : r <:+ l) (some : r ≠ []) : [a] <:+ r := by
  rcases List.suffix_or_suffix_of_suffix ends reaches with inside | outside
  · exact inside
  · rcases List.suffix_cons_iff.mp outside with whole | nothing
    · exact whole ▸ List.suffix_rfl
    · exact absurd (List.suffix_nil.mp nothing) some

/-- A cut before the slash at the end leaves a text that ends in it. -/
theorem dropWhile_ends {p : Char → Bool} (ends : ['/'] <:+ cs) (kept : p '/' = false) : ['/'] <:+ cs.dropWhile p := by
  refine ends_of_suffix ends (List.dropWhile_suffix p) fun nothing => ?_
  have all := List.dropWhile_eq_nil_iff.mp nothing '/' (ends.mem List.mem_cons_self)
  exact absurd (kept.symm.trans all) Bool.false_ne_true

/-- A text without the marks that it is cut at stays whole. -/
theorem cutAt_absent {p : Char → Bool} (absent : ∀ c ∈ cs, p c = false) : cutAt p cs = (cs,[]) := by
  have kept : ∀ c ∈ cs, (!p c) = true := fun c member => by rw [absent c member,Bool.not_false]
  rw [cutAt,List.takeWhile_eq_self_iff.mpr kept,List.dropWhile_eq_nil_iff.mpr kept]

/-- What is read of a URL's text ends in a slash if the text does, and has no other characters. -/
theorem read_ends {p q : Char → Bool} (ends : ['/'] <:+ cs) (kept : p '/' = false) (taken : q '/' = true) :
    ['/'] <:+ (strip p cs).filter q ∧ ∀ c ∈ (strip p cs).filter q, c ∈ cs := by
  obtain ⟨before,same⟩ := dropWhile_ends ends kept
  have stripped : strip p cs = cs.dropWhile p := by
    rw [strip,← same,List.reverse_append,List.reverse_singleton,List.singleton_append,
      List.dropWhile_cons_of_neg (by rw [kept]; exact Bool.false_ne_true),List.reverse_cons,List.reverse_reverse]
  rw [stripped]
  refine ⟨?_,fun c member => (List.dropWhile_suffix p).mem (List.mem_filter.mp member).1⟩
  rw [← same,List.filter_append,List.filter_cons_of_pos taken,List.filter_nil]
  exact List.suffix_append _ _

/-! ### Paths -/

/-- A row of segments with an empty one at its end leads to names with an empty one at their end. -/
theorem resolve_ends {before segments : List (List Char)} (ends : [[]] <:+ segments) :
    [[]] <:+ resolve kind before segments := by
  obtain ⟨segments,rfl⟩ := ends
  have last : addSegment kind (segments.foldl (addSegment kind) before) [] =
      [] :: segments.foldl (addSegment kind) before := by
    simp [addSegment,readPoints,isDrive]
  simp only [resolve,List.foldl_append,List.foldl_cons,List.foldl_nil,last,List.reverse_cons,
    List.getLast?_append,List.getLast?_singleton]
  exact List.suffix_append _ _

/-- The segments of a text that is empty or ends in a slash end in an empty one. -/
theorem readSegments_ends (ends : cs ≠ [] → ['/'] <:+ cs) : [[]] <:+ readSegments kind cs := by
  have split : [[]] <:+ (cs.splitOnP kind.isSlash).map (Percent.encode Percent.path) := by
    by_cases empty : cs = []
    · rw [empty,List.splitOnP_nil]
      exact List.suffix_rfl
    · obtain ⟨before,rfl⟩ := ends empty
      rw [List.splitOnP_append_cons before [] (by simp [SchemeKind.isSlash]),List.splitOnP_nil,List.map_append]
      exact List.suffix_append _ _
  have names : [[]] <:+ resolve kind [] _ := resolve_ends split
  cases kind with
  | special port => exact names
  | other => exact names
  | file =>
    simp only [readSegments]
    split_ifs with none_named
    · exact List.suffix_rfl
    · refine ends_of_suffix names (List.dropWhile_suffix _) fun nothing => none_named ?_
      exact List.all_eq_true.mpr (List.dropWhile_eq_nil_iff.mp nothing)

/-- The path read of a text that ends in a slash is a directory; in a scheme with hosts of its own the path read of no
    text is one, too. -/
theorem readPath_directory (ends : cs ≠ [] ∨ kind = .other → ['/'] <:+ cs) : (readPath kind cs).IsDirectory := by
  have some_read : ¬ (cs = [] ∧ kind = .other) := by
    rintro ⟨rfl,other⟩
    exact absurd (List.suffix_nil.mp (ends (.inr other))) (List.cons_ne_nil _ _)
  rw [readPath,if_neg some_read]
  have names : [[]] <:+ readSegments kind (cs.drop 1) := readSegments_ends fun more =>
    ends_of_suffix (ends (.inl fun nothing => more (by rw [nothing,List.drop_nil]))) (List.drop_suffix 1 cs) more
  exact ⟨_,rfl,names.map String.ofList⟩

/-! ### Hierarchies -/

/-- What follows the authority in a text that ends in a slash is a path that does, or nothing where the authority is
    nothing, too. -/
theorem cutAt_ends (ends : ['/'] <:+ cs) : ['/'] <:+ (cutAt kind.isSlash cs).2 :=
  dropWhile_ends ends (by simp [SchemeKind.isSlash])

/-- The path of a file URL that ends in a slash is a directory. -/
theorem readFile_directory {authority : UrlAuthority} {path : UrlPath} (ends : ['/'] <:+ cs)
    (read : readFile cs = .ok (authority,path)) : path.IsDirectory := by
  have rooted : (readPath .file (if cs.head?.any SchemeKind.file.isSlash then cs else '/' :: cs)).IsDirectory := by
    refine readPath_directory fun _ => ?_
    split_ifs
    · exact ends
    · exact ends.trans (List.suffix_cons _ _)
  rcases cs with _ | ⟨a,_ | ⟨b,rest⟩⟩
  · cases read
    exact rooted
  · cases read
    exact rooted
  · have behind (some_left : rest ≠ []) : ['/'] <:+ rest :=
      ends_of_suffix ends ((List.suffix_cons _ _).trans (List.suffix_cons _ _)) some_left
    have path_behind : (readPath .file (cutAt SchemeKind.file.isSlash rest).2).IsDirectory := by
      refine readPath_directory fun some_read => ?_
      have more : (cutAt SchemeKind.file.isSlash rest).2 ≠ [] := by simpa using some_read
      exact cutAt_ends (behind fun nothing => more (by rw [nothing,cutAt,List.dropWhile_nil]))
    simp only [readFile] at read
    by_cases single : (!SchemeKind.file.isSlash a || !SchemeKind.file.isSlash b) = true
    · rw [if_pos single] at read
      cases read
      exact rooted
    rw [if_neg single] at read
    by_cases drive : isDrive (cutAt SchemeKind.file.isSlash rest).1 = true
    · rw [if_pos drive] at read
      cases read
      have drive_named : rest ≠ [] := by
        rintro rfl
        cases drive
      exact readPath_directory fun _ => (behind drive_named).trans (List.suffix_cons _ _)
    rw [if_neg drive] at read
    split_ifs at read with nameless
    · cases read
      exact path_behind
    · cases host : readHost (cutAt SchemeKind.file.isSlash rest).1 with
      | error e => rw [host] at read; cases read
      | ok host' =>
        rw [host] at read
        cases read
        exact path_behind

/-- The path of a URL that ends in a slash is a directory, unless nothing leads on from it or nothing but the two
    slashes of a scheme without hosts of its own is there. -/
theorem readHierarchy_directory {authority : Option UrlAuthority} {path : UrlPath} (ends : ['/'] <:+ cs)
    (read : readHierarchy kind cs = .ok (authority,path)) :
    (∃ text, path = .verbatim text) ∨ path.IsDirectory ∨
      (kind = .other ∧ authority = some { host := .domain "" } ∧ path = .segments []) := by
  rw [readHierarchy.eq_def] at read
  split at read
  · cases file : readFile cs with
    | error e => rw [file] at read; cases read
    | ok found =>
      rw [file] at read
      cases read
      exact .inr (.inl (readFile_directory ends file))
  · rename_i port
    have some_left : cs.dropWhile (SchemeKind.special port).isSlash ≠ [] := by
      intro nothing
      rw [nothing] at read
      cases read
    have behind := ends_of_suffix ends (List.dropWhile_suffix _) some_left
    cases named : readAuthority (.special port) (cutAt (SchemeKind.special port).isSlash (cs.dropWhile
        (SchemeKind.special port).isSlash)).1 with
    | error e => simp only [named] at read; cases read
    | ok found =>
      simp only [named] at read
      cases read
      exact .inr (.inl (readPath_directory fun _ => cutAt_ends behind))
  · rename_i rest
    by_cases nothing : rest = []
    · subst nothing
      cases read
      exact .inr (.inr ⟨rfl,rfl,rfl⟩)
    have behind : ['/'] <:+ rest :=
      ends_of_suffix ends ((List.suffix_cons _ _).trans (List.suffix_cons _ _)) nothing
    cases named : readAuthority .other (cutAt SchemeKind.other.isSlash rest).1 with
    | error e => simp only [named] at read; cases read
    | ok found =>
      simp only [named] at read
      cases read
      exact .inr (.inl (readPath_directory fun _ => cutAt_ends behind))
  · cases read
    exact .inr (.inl (readPath_directory fun _ => ends))
  · cases read
    exact .inl ⟨_,rfl⟩

/-! ### URLs -/

/-- What follows the colon of a scheme, in a text that ends in a slash, ends in it too. -/
theorem splitScheme_ends {scheme rest : List Char} (ends : ['/'] <:+ cs) (read : splitScheme cs = some (scheme,rest)) :
    ['/'] <:+ rest ∧ ∀ c ∈ rest, c ∈ cs := by
  rw [splitScheme] at read
  split at read
  · rename_i c named colon behind cut
    split_ifs at read
    cases read
    have found : cs.dropWhile (fun c => !(c == ':')) = colon :: rest := (Prod.ext_iff.mp cut).2
    have reaches : colon :: rest <:+ cs := found ▸ List.dropWhile_suffix _
    have marked : (colon == ':') = true := by
      have head := List.head?_dropWhile_not (fun c => !(c == ':')) cs
      rw [found] at head
      simpa using head
    have some_left : rest ≠ [] := by
      rintro rfl
      have last := ends_of_suffix ends reaches (List.cons_ne_nil _ _)
      have same : '/' = colon := List.mem_singleton.mp (last.mem List.mem_cons_self)
      rw [← same] at marked
      cases marked
    exact ⟨ends_of_suffix ends ((List.suffix_cons _ _).trans reaches) some_left,
      fun c member => reaches.mem (List.mem_cons_of_mem _ member)⟩
  · cases read

/-- A text that ends in a slash and has no marks of a query or a fragment is read as a URL without them. Its path is a
    directory, unless nothing leads on from it or it is bare. -/
theorem parse_directory {s : String} (ends : ['/'] <:+ s.toList) (no_query : '?' ∉ s.toList)
    (no_fragment : '#' ∉ s.toList) (read : parse s = .ok u) :
    (u.query = none ∧ u.fragment = none) ∧ ((∃ text, u.path = .verbatim text) ∨ u.path.IsDirectory ∨ u.IsBare) := by
  rw [parse] at read
  obtain ⟨ends,kept⟩ := read_ends (p := fun c => c.toNat ≤ 0x20)
    (q := fun c => c ≠ '\t' && c ≠ '\n' && c ≠ '\r') ends rfl rfl
  generalize (strip _ s.toList).filter _ = cs at read ends kept
  cases split : splitScheme cs with
  | none => simp only [split] at read; cases read
  | some found =>
    obtain ⟨scheme,rest⟩ := found
    obtain ⟨ends,among⟩ := splitScheme_ends ends split
    have absent {mark : Char} (no_mark : mark ∉ s.toList) : ∀ c ∈ rest, (c == mark) = false := fun c member =>
      beq_false_of_ne fun same => no_mark (same ▸ kept c (among c member))
    simp only [split,cutAt_absent (absent no_fragment),cutAt_absent (absent no_query)] at read
    cases hierarchy : readHierarchy (schemeKind (String.ofList scheme)) rest with
    | error e => simp only [hierarchy] at read; cases read
    | ok found =>
      simp only [hierarchy] at read
      cases read
      refine ⟨⟨rfl,rfl⟩,?_⟩
      rcases readHierarchy_directory ends hierarchy with verbatim | directory | bare
      · exact .inl verbatim
      · exact .inr (.inl directory)
      · exact .inr (.inr bare)

/-! ### Paths below a directory -/

/-- A name that leads below the names before it, and nowhere else, in any scheme. -/
def IsPlain (segment : List Char) : Prop := isPoints segment = false ∧ isDrive segment = false

instance (segment : List Char) : Decidable (IsPlain segment) := inferInstanceAs (Decidable (_ ∧ _))

/-- Plain names lead below the names before them. -/
theorem resolve_plain {before segments : List (List Char)} (plain : ∀ segment ∈ segments, IsPlain segment) :
    resolve kind before segments = before.reverse ++ segments := by
  have leads (before) : segments.foldl (addSegment kind) before = segments.reverse ++ before := by
    induction segments generalizing before with
    | nil => rfl
    | cons segment segments ih =>
      have ⟨points,drive⟩ := plain segment List.mem_cons_self
      have step : addSegment kind before segment = segment :: before := by
        simp only [isPoints,Bool.or_eq_false_iff,beq_eq_false_iff_ne] at points
        simp only [addSegment,if_neg points.1,if_neg points.2,drive,Bool.and_false,Bool.false_eq_true,if_false]
      rw [List.foldl_cons,step,ih fun s member => plain s (List.mem_cons_of_mem _ member),List.reverse_cons,
        List.append_assoc,List.singleton_append]
  have no_points : ¬ segments.getLast?.any isPoints = true := by
    cases last : segments.getLast? with
    | none => exact Bool.false_ne_true
    | some segment =>
      rw [Option.any_some,(plain segment (List.mem_of_getLast? last)).1]
      exact Bool.false_ne_true
  simp only [resolve,if_neg no_points,leads,List.reverse_append,List.reverse_reverse]

/-- The text of a URL's path, up to the slash that it ends in; no path is as good as that slash. -/
def directory (u : Url) : String := if u.path.text = "" then "/" else u.path.text

/-- A URL below another one: the path follows its directory, on the same server, and nothing follows the path. -/
structure IsBelow (u base : Url) (path : String) : Prop where
  scheme : u.scheme = base.scheme
  authority : u.authority = base.authority
  path_text : u.path.text = base.directory ++ path
  no_query : u.query = none
  no_fragment : u.fragment = none

/-- A path of plain names, which any scheme reads and writes as it is. -/
structure IsRoute (path : String) (names : List String) : Prop where
  plain : ∀ name ∈ names, IsPlain name.toList
  read (kind : SchemeKind) :
    (path.toList.splitOnP kind.isSlash).map (Percent.encode Percent.path) = names.map String.toList
  written : (UrlPath.segments names).text = "/" ++ path

theorem text_append (names names' : List String) :
    (UrlPath.segments (names ++ names')).text = (UrlPath.segments names).text ++ (UrlPath.segments names').text := by
  simp only [UrlPath.text,List.map_append,String.join_append]

/-- From a directory, or from no path at all, a path of plain names leads below it. -/
theorem join_route {path : String} {names route : List String} (routed : IsRoute path route)
    (based : u.path = .segments names) (ends : names ≠ [] → [""] <:+ names) :
    ∃ below, u.join path = .ok below ∧ below.IsBelow u path := by
  have plain : ∀ segment ∈ route.map String.toList, IsPlain segment := List.forall_mem_map.mpr routed.plain
  have joined : u.join path = .ok { u with path := .segments (names.dropLast ++ route), query := none, fragment := none } := by
    rw [join,based]
    simp only [routed.read,resolve_plain plain,List.reverse_reverse,pathOf,List.map_append,List.map_map,
      Function.comp_def,String.ofList_toList,List.map_id']
  refine ⟨_,joined,rfl,rfl,?_,rfl,rfl⟩
  rw [text_append,routed.written,directory,based]
  by_cases nothing : names = []
  · subst nothing
    rfl
  · obtain ⟨names,rfl⟩ := ends nothing
    have slash : (UrlPath.segments (names ++ [""])).text = (UrlPath.segments names).text ++ "/" := text_append _ _
    have some_text : (UrlPath.segments (names ++ [""])).text ≠ "" := by
      rw [slash]
      intro none_left
      simpa using congrArg String.toList none_left
    rw [if_neg some_text,slash,List.dropLast_concat,String.append_assoc]

end Url

end PhoneSignIn

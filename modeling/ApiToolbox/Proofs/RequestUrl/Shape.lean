import ApiToolbox.Proofs.RequestUrl.Path

/-! The shape of the address of a request: the path of the base address and then one segment for each
segment of the template. Values of path parameters keep it, but for one dot and two dots, which are
not escaped and which resolving takes as steps. -/

namespace ApiToolbox

open Json (Value)
open Template (Part)

/-- The segments of a path but for the empty ones at its end. -/
def Url.Path.trimmed : Url.Path → List String
  | .segments parts => parts.rdropWhile (· = "")
  | .flat _ => []

namespace Template

/-- Segments of a template that are each a literal of unreserved characters, and no dot segment, or one
placeholder, no two of them with one name. -/
structure IsSegmented (segments : List Part) : Prop where
  ne_nil : segments ≠ []
  literal : ∀ text, .literal text ∈ segments → text ≠ "" ∧ text ≠ "." ∧ text ≠ ".." ∧
    ∀ c ∈ text.toList, Url.isUnreserved c = true
  slot : ∀ name, .slot name ∈ segments → name ≠ "" ∧ '{' ∉ name.toList ∧ '}' ∉ name.toList
  nodup : (slots segments).Nodup

/-- What a segment of a path has to be for a segment of a template: the literal itself, or a text that
percent-decodes to the value. -/
def Part.Fits (value : String → String) : Part → String → Prop
  | .literal text, s => s = text
  | .slot name, s => Text.Utf8.decode? (Url.percentDecode s.toList) = some (value name).toList

/-- The segment that a segment of a template is filled to. -/
def Part.segment (value : String → String) : Part → String
  | .literal text => text
  | .slot name => Url.encodeComponent (value name)

theorem Part.fits_segment (value : String → String) (part : Part) :
    part.Fits value (part.segment value) := by
  cases part with
  | literal text => rfl
  | slot name => exact Url.decode?_encodeComponent (value name)

section Segmented

variable {segments : List Part}

theorem IsSegmented.isPlain (h : IsSegmented segments) : ∀ part ∈ segments, part.IsPlain := by
  intro part hpart
  cases part with
  | literal text =>
    intro hbrace
    exact absurd ((h.literal text hpart).2.2.2 _ hbrace) (by decide)
  | slot name => exact h.slot name hpart

theorem IsSegmented.isSegment (h : IsSegmented segments) (value : String → String) :
    ∀ part ∈ segments, Url.IsSegment (part.segment value) := by
  intro part hpart
  cases part with
  | literal text =>
    exact fun c hc => Url.isSegmentChar_of_isUnreserved ((h.literal text hpart).2.2.2 c hc)
  | slot name => exact Url.isSegment_encodeComponent (value name)

theorem IsSegmented.placeholders (h : IsSegmented segments) (rooted : Bool) :
    placeholders (ofSegments rooted segments) = slots segments := by
  have hslash : '{' ∉ "/".toList := by decide
  rw [ofSegments, ← flatMap_separated rfl,
    placeholders_source (forall_mem_separated hslash h.isPlain rooted), slots_separated]

end Segmented

end Template

namespace RequestUrl

/-! ### Filling a template -/

theorem text_eq_segment {args : Members Value} {value : String → String} {part : Part}
    (h : ∀ name ∈ part.name?, pathText? args name = some (value name)) :
    part.text (escaped args) = (part.segment value).toList := by
  cases part with
  | literal text => rfl
  | slot name => exact escaped_of_pathText? (h name rfl)

theorem path_ofSegments {segments : List Part} (hseg : Template.IsSegmented segments)
    {rooted : Bool} {op : Operation} (hpath : op.path = Template.ofSegments rooted segments)
    (hnames : ∀ n, n ∈ op.pathParams.map (·.name) ↔ n ∈ Template.slots segments)
    {args : Members Value} {value : String → String}
    (hargs : ∀ name ∈ Template.slots segments, pathText? args name = some (value name)) :
    path op args = .ok (String.ofList ((if rooted then ['/'] else []) ++
      ['/'].intercalate ((segments.map (Part.segment value)).map String.toList))) := by
  have hslash : '{' ∉ "/".toList := by decide
  have hslots := Template.slots_separated rooted segments
  have hlegible := Template.legible_of_isPlain
    (Template.forall_mem_separated hslash hseg.isPlain rooted)
  have hsource : op.path = String.ofList ((Template.separated rooted segments).flatMap Part.source) := by
    rw [hpath, Template.ofSegments, Template.flatMap_separated rfl]
  have hparams : ∀ p ∈ op.pathParams, p.name ∈ Template.slots segments := fun p hp =>
    (hnames p.name).mp (List.mem_map_of_mem hp)
  obtain ⟨filled, hfilled⟩ := (fill_isOk_iff args op.pathParams op.path.toList).mpr fun p hp =>
    ⟨_, hargs p.name (hparams p hp)⟩
  have hok : path op args = .ok (String.ofList filled) := by
    rw [path, hfilled]
    rfl
  have htext := path_eq_fillEach hlegible hsource (fun p hp => hslots ▸ hparams p hp) hok
  have hall : segments.map (Part.text (escaped args)) =
      (segments.map (Part.segment value)).map String.toList := by
    rw [List.map_map]
    refine List.map_congr_left fun part hpart => text_eq_segment fun name hname => ?_
    exact hargs name (List.mem_filterMap.mpr ⟨part, hpart, hname⟩)
  rw [hok, htext, Template.fillEach_eq_of_nodup (not_mem_escaped args) (hslots ▸ hseg.nodup)
    (fun n hn => (hnames n).mpr (hslots ▸ hn)), Template.flatMap_separated rfl, hall]

/-! ### Putting the path behind the base address -/

/-- Segments that are put behind an address stand there each behind a slash. -/
theorem joined_intercalate {segments : List String}
    (hsegments : ∀ s ∈ segments, Url.IsSegment s ∧ s ≠ "") (hne : segments ≠ []) (rooted : Bool)
    (tail : List Char) :
    joined tail ((if rooted then ['/'] else []) ++ ['/'].intercalate (segments.map String.toList)) =
      Text.dropEndWhile (· = '/') tail ++ Url.slashed segments := by
  obtain ⟨s, rest, rfl⟩ := List.exists_cons_of_ne_nil hne
  have hslashed := Url.slashed_cons_eq_intercalate s rest
  rw [joined, hslashed]
  cases rooted with
  | true => simp
  | false =>
    obtain ⟨hs, hempty⟩ := hsegments s (by simp)
    obtain ⟨c, r, hc⟩ := List.exists_cons_of_ne_nil (show s.toList ≠ [] by simpa using hempty)
    have hslash : c ≠ '/' := by
      rintro rfl
      exact hs.not_mem (by decide) (hc ▸ List.mem_cons_self)
    have hhead : (['/'].intercalate ((s :: rest).map String.toList)).head? ≠ some '/' := by
      cases rest with
      | nil => simp [hc, hslash]
      | cons t rest => simp [List.intercalate_cons_cons, hc, hslash]
    simp only [Bool.false_eq_true, if_false, List.nil_append, hhead]

theorem joined_slashed {parts segments : List String} (hparts : ∀ s ∈ parts, Url.IsSegment s)
    (hsegments : ∀ s ∈ segments, Url.IsSegment s ∧ s ≠ "") (hne : segments ≠ []) (rooted : Bool) :
    joined (Url.slashed parts)
        ((if rooted then ['/'] else []) ++ ['/'].intercalate (segments.map String.toList)) =
      Url.slashed (parts.rdropWhile (· = "") ++ segments) := by
  rw [joined_intercalate hsegments hne, Url.dropEndWhile_slashed hparts, Url.slashed_append]

/-- The path of a request before its shape is looked at: the segments of the base address and of the
template, resolved. -/
theorem path_build {base : Url} {a : Url.Authority} (hbase : base.IsWeb a)
    (hquery : base.query = none) (hfragment : base.fragment = none) {segments : List String}
    (hsegments : ∀ s ∈ segments, Url.IsSegment s ∧ s ≠ "") (hne : segments ≠ []) {rooted : Bool}
    {op : Operation} {args : Members Value}
    (hpath : path op args = .ok (String.ofList ((if rooted then ['/'] else []) ++
      ['/'].intercalate (segments.map String.toList)))) {u : Url} (hu : build base op args = .ok u) :
    u.path = .segments (Url.resolveSegments [] (base.path.trimmed ++ segments)) := by
  obtain ⟨cs, hparts⟩ := hbase.path
  have hbaseSegments := Url.isSegment_of_mem_pathSegments cs
  obtain ⟨text, a', htext, -, rfl⟩ := (build_eq_ok_iff hbase).mp hu
  obtain rfl := Except.ok.inj (hpath.symm.trans htext)
  have hall : ∀ s ∈ base.path.trimmed ++ segments, Url.IsSegment s := by
    intro s hs
    rw [hparts] at hs
    rcases List.mem_append.mp hs with hs | hs
    · exact hbaseSegments s ((List.rdropWhile_prefix _ _).subset hs)
    · exact (hsegments s hs).1
  rw [path_withPairs, String.toList_ofList, Url.tail_of_path hparts hquery hfragment,
    joined_slashed hbaseSegments hsegments hne]
  rw [hparts] at hall ⊢
  rw [Url.Path.trimmed] at hall ⊢
  rw [Url.web_slashed _ _ (by simp [hne]) hall]

/-- The path of an address is that of the base address without the slashes at its end, followed by one
segment for each segment of a template. -/
def HasShape (base : Url) (segments : List Part) (value : String → String) (u : Url) : Prop :=
  ∃ rest, u.path = .segments (base.path.trimmed ++ rest) ∧
    List.Forall₂ (Part.Fits value) segments rest

section Shape

variable {segments : List Part} {value : String → String}

theorem ne_empty_of_fits (hseg : Template.IsSegmented segments)
    (hvalue : ∀ name ∈ Template.slots segments, value name ≠ "") {part : Part} (hpart : part ∈ segments)
    {s : String} (hfits : part.Fits value s) : s ≠ "" := by
  rintro rfl
  cases part with
  | literal text => exact (hseg.literal text hpart).1 hfits.symm
  | slot name =>
    have hslot : name ∈ Template.slots segments := List.mem_filterMap.mpr ⟨_, hpart, rfl⟩
    have hempty : Text.Utf8.decode? (Url.percentDecode "".toList) = some [] :=
      Text.Utf8.decode?_encode []
    have hnil := Option.some.inj (hempty.symm.trans hfits)
    exact hvalue name hslot (by simpa using hnil.symm)

theorem not_isDot_literal (hseg : Template.IsSegmented segments) {text : String}
    (htext : .literal text ∈ segments) : Url.isDot text = false := by
  obtain ⟨-, hdot, hdots, hchars⟩ := hseg.literal text htext
  exact Url.not_isDot_of_isUnreserved hchars hdot hdots

/-- The segments of a filled template are dot segments only where a value is one or two dots. -/
theorem not_isDot_segment_iff (hseg : Template.IsSegmented segments) :
    (∀ part ∈ segments, Url.isDot (part.segment value) = false) ↔
      ∀ name ∈ Template.slots segments, value name ≠ "." ∧ value name ≠ ".." := by
  have hslot (name : String) : Url.isDot (Part.segment value (.slot name)) = false ↔
      value name ≠ "." ∧ value name ≠ ".." := by
    rw [Part.segment, ← Bool.not_eq_true, Url.isDot_encodeComponent_iff, not_or]
  constructor
  · intro h name hname
    obtain ⟨part, hpart, hsome⟩ := List.mem_filterMap.mp hname
    cases part with
    | literal text => cases hsome
    | slot other =>
      obtain rfl := Option.some.inj hsome
      exact (hslot _).mp (h _ hpart)
  · intro h part hpart
    cases part with
    | literal text => exact not_isDot_literal hseg hpart
    | slot name => exact (hslot name).mpr (h name (List.mem_filterMap.mpr ⟨_, hpart, rfl⟩))

/-- A path that has been resolved has the shape when no value is a dot segment. -/
theorem hasShape_iff {base : Url} {cs : List Char}
    (hbase : base.path = .segments (Url.pathSegments true cs))
    (hseg : Template.IsSegmented segments)
    (hvalue : ∀ name ∈ Template.slots segments, value name ≠ "") {u : Url}
    (hu : u.path = .segments (Url.resolveSegments []
      (base.path.trimmed ++ segments.map (Part.segment value)))) :
    HasShape base segments value u ↔
      ∀ name ∈ Template.slots segments, value name ≠ "." ∧ value name ≠ ".." := by
  rw [← not_isDot_segment_iff hseg]
  constructor
  · rintro ⟨rest, hrest, hfits⟩ part hpart
    have heq : Url.resolveSegments [] (base.path.trimmed ++ segments.map (Part.segment value)) =
        base.path.trimmed ++ rest := by
      simpa using hu.symm.trans hrest
    have hlen : (Url.resolveSegments [] (base.path.trimmed ++ segments.map (Part.segment value))).length =
        ([] : List String).length + (base.path.trimmed ++ segments.map (Part.segment value)).length := by
      simp [heq, hfits.length_eq]
    have hlast : (Url.resolveSegments []
        (base.path.trimmed ++ segments.map (Part.segment value))).getLast? ≠ some "" := by
      have hne : rest ≠ [] := by
        rintro rfl
        exact hseg.ne_nil (List.forall₂_nil_right_iff.mp hfits)
      rw [heq, List.getLast?_append_of_ne_nil _ hne, List.getLast?_eq_some_getLast hne]
      intro hempty
      obtain ⟨part, hpart, hlastFits⟩ := exists_of_mem_forall₂ hfits (List.getLast_mem hne)
      exact ne_empty_of_fits hseg hvalue hpart hlastFits (Option.some.inj hempty)
    exact Url.not_isDot_of_length_resolveSegments hlen hlast _
      (List.mem_append_right _ (List.mem_map_of_mem hpart))
  · intro h
    refine ⟨segments.map (Part.segment value), ?_, ?_⟩
    · rw [hu, Url.resolveSegments_of_forall]
      · simp
      · intro s hs
        rcases List.mem_append.mp hs with hs | hs
        · rw [hbase] at hs
          exact Url.not_isDot_of_mem_pathSegments cs s ((List.rdropWhile_prefix _ _).subset hs)
        · obtain ⟨part, hpart, rfl⟩ := List.mem_map.mp hs
          exact h part hpart
    · rw [List.forall₂_map_right_iff]
      exact List.forall₂_same.mpr fun part _ => part.fits_segment value

end Shape

/-- The address of a request has the shape of the base address and the template exactly when no value
of a path parameter is one dot or two; then, and only then, resolving takes a value as a step. -/
theorem build_hasShape_iff {given : String} {base : Url} (hbase : BaseUrl.parse given = .ok base)
    (hquery : base.query = none) (hfragment : base.fragment = none) {docs : List PathDocument}
    {d : Discovery} {op : Operation} (hop : op ∈ (Registry.build docs d).operations)
    {segments : List Part} (hseg : Template.IsSegmented segments) {rooted : Bool}
    (hpath : op.path = Template.ofSegments rooted segments) {args : Members Value}
    {value : String → String} (hargs : ∀ name ∈ Template.slots segments,
      args.get? name = some (.string (value name)) ∧ value name ≠ "") :
    (Url.parse base.text = .ok base → ∃ u, build base op args = .ok u) ∧
      ∀ u, build base op args = .ok u →
        (HasShape base segments value u ↔
          ∀ name ∈ Template.slots segments, value name ≠ "." ∧ value name ≠ "..") := by
  obtain ⟨hparse, hs⟩ := BaseUrl.cases_of_parse hbase
  obtain ⟨a, hweb, -⟩ := Url.exists_isWeb_of_parse hparse hs
  obtain ⟨cs, hcs⟩ := hweb.path
  have hnames (n : String) : n ∈ op.pathParams.map (·.name) ↔ n ∈ Template.slots segments := by
    rw [Registry.mem_names_pathParams_iff hop, hpath, hseg.placeholders]
  have htexts : ∀ name ∈ Template.slots segments, pathText? args name = some (value name) := by
    intro name hname
    obtain ⟨hget, hne⟩ := hargs name hname
    exact pathText?_eq_some_iff.mpr ⟨_, hget, rfl, rfl, hne⟩
  have hfilled := path_ofSegments hseg hpath hnames htexts
  constructor
  · intro hread
    exact ⟨_, (build_eq_ok_iff hweb).mpr
      ⟨_, a, hfilled, authority_parse_of_parse_text hweb hread, rfl⟩⟩
  · intro u hu
    have hsegments : ∀ s ∈ segments.map (Part.segment value), Url.IsSegment s ∧ s ≠ "" := by
      intro s hs
      obtain ⟨part, hpart, rfl⟩ := List.mem_map.mp hs
      exact ⟨hseg.isSegment value part hpart,
        ne_empty_of_fits hseg (fun name hname => (hargs name hname).2) hpart (part.fits_segment value)⟩
    exact hasShape_iff hcs hseg (fun name hname => (hargs name hname).2)
      (path_build hweb hquery hfragment hsegments (by simp [hseg.ne_nil]) hfilled hu)

/-! ### An operation with one placeholder -/

/-- The segments of `/users/{id}/posts`. -/
def userPosts : List Part := [.literal "users", .slot "id", .literal "posts"]

theorem isSegmented_userPosts : Template.IsSegmented userPosts where
  ne_nil := by simp [userPosts]
  literal := by
    intro text htext
    have h : text = "users" ∨ text = "posts" := by simpa [userPosts] using htext
    rcases h with rfl | rfl <;>
      exact ⟨by decide, by decide, by decide, List.all_eq_true.mp (by decide)⟩
  slot := by
    intro name hname
    obtain rfl : name = "id" := by simpa [userPosts] using hname
    decide
  nodup := by decide

def userPostsDocument : PathDocument :=
  ⟨"/users/\x7bid\x7d/posts", [], [⟨.get, none, none, [], none⟩]⟩

def userPostsOperation : Operation :=
  Registry.operation "users_id_posts" userPostsDocument ⟨.get, none, none, [], none⟩

theorem userPostsOperation_mem_build :
    userPostsOperation ∈ (Registry.build [userPostsDocument] (.all true)).operations := by
  decide +kernel

def exampleBase : Url :=
  ⟨"http", some ⟨"", "", .domain "api.test", none⟩, .segments ["v1", ""], none, none⟩

theorem parse_exampleBase : BaseUrl.parse "http://api.test/v1/" = .ok exampleBase := by
  decide +kernel

theorem parse_text_exampleBase : Url.parse exampleBase.text = .ok exampleBase := by
  decide +kernel

/-- A slash and a space in the name of a user stay within its segment. -/
theorem hasShape_userPosts :
    ∃ u, build exampleBase userPostsOperation [("id", .string "a/b c")] = .ok u ∧
      HasShape exampleBase userPosts (fun _ => "a/b c") u := by
  have hargs : ∀ name ∈ Template.slots userPosts,
      Members.get? name [("id", Value.string "a/b c")] = some (.string "a/b c") ∧ "a/b c" ≠ "" := by
    intro name hname
    obtain rfl : name = "id" := by simpa [userPosts] using hname
    exact ⟨rfl, by decide⟩
  have hpath : userPostsOperation.path = Template.ofSegments true userPosts := by decide
  obtain ⟨hok, hshape⟩ := build_hasShape_iff parse_exampleBase rfl rfl userPostsOperation_mem_build
    isSegmented_userPosts hpath hargs
  obtain ⟨u, hu⟩ := hok parse_text_exampleBase
  exact ⟨u, hu, (hshape u hu).mpr fun _ _ => by decide⟩

/-- Two dots as the name of a user lead out of the users. -/
theorem not_hasShape_userPosts :
    BaseUrl.parse "http://api.test/v1/" = .ok exampleBase ∧
      userPostsOperation ∈ (Registry.build [userPostsDocument] (.all true)).operations ∧
      userPostsOperation.path = Template.ofSegments true userPosts ∧
      Template.IsSegmented userPosts ∧
      ∃ u, build exampleBase userPostsOperation [("id", .string "..")] = .ok u ∧
        u.path = .segments ["v1", "posts"] ∧ ¬ HasShape exampleBase userPosts (fun _ => "..") u := by
  refine ⟨parse_exampleBase, userPostsOperation_mem_build, by decide, isSegmented_userPosts,
    { exampleBase with path := .segments ["v1", "posts"] }, by decide +kernel, rfl, ?_⟩
  rintro ⟨rest, hrest, hfits⟩
  have hlen := congrArg List.length (Url.Path.segments.inj hrest)
  have hthree : userPosts.length = rest.length := hfits.length_eq
  simp only [exampleBase, Url.Path.trimmed, List.length_append, userPosts, List.length_cons,
    List.length_nil] at hlen hthree
  omega

end RequestUrl
end ApiToolbox

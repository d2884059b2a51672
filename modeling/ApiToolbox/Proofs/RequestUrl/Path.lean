import ApiToolbox.Proofs.Registry.Content
import ApiToolbox.Proofs.RequestUrl.Origin
import ApiToolbox.Proofs.Template.Parts

/-! The path of a request: its template with the arguments in the placeholders. Each path parameter fills
one placeholder, so a name that stands in the template more often than among the parameters is left where
it stands again. -/

namespace ApiToolbox

open Json (Value)
open Template (Part Legible fillEach)

namespace RequestUrl

/-- What stands for a placeholder: the escaped text of its argument. -/
def escaped (args : Members Value) (name : String) : List Char :=
  (Url.encodeComponent (((args.get? name).map Value.addressText).getD "")).toList

theorem not_mem_escaped (args : Members Value) (name : String) : '{' ∉ escaped args name :=
  (Url.isSegment_encodeComponent _).not_mem (by decide)

theorem escaped_of_pathText? {args : Members Value} {name text : String}
    (h : pathText? args name = some text) : escaped args name = (Url.encodeComponent text).toList := by
  obtain ⟨v, hv, -, rfl, -⟩ := pathText?_eq_some_iff.mp h
  rw [escaped, hv]
  rfl

/-- Filling in parameters one after the other uses up their names. -/
theorem fill_fillEach {args : Members Value} {parts : List Part} (hparts : Legible parts)
    {params : List Parameter} (hnames : ∀ p ∈ params, p.name ≠ "" ∧ '}' ∉ p.name.toList)
    (hargs : ∀ p ∈ params, ∃ text, pathText? args p.name = some text) (names : List String) :
    fill args params (fillEach (escaped args) names parts) =
      .ok (fillEach (escaped args) (params.map (·.name) ++ names) parts) := by
  induction params generalizing names with
  | nil => rfl
  | cons p rest ih =>
    obtain ⟨hne, hbrace⟩ := hnames p List.mem_cons_self
    obtain ⟨text, htext⟩ := hargs p List.mem_cons_self
    have ih := ih (fun q hq => hnames q (List.mem_cons_of_mem p hq))
      fun q hq => hargs q (List.mem_cons_of_mem p hq)
    have hperm : (rest.map (·.name) ++ p.name :: names).Perm (p.name :: rest.map (·.name) ++ names) :=
      List.perm_middle
    rw [fill, htext]
    simp only
    rw [← escaped_of_pathText? htext,
      Template.fillFirst_fillEach (not_mem_escaped args) hparts hne hbrace, ih,
      Template.fillEach_perm hperm, List.map_cons]

/-- The path of a request is that of its template with each name used up by the placeholders in turn. -/
theorem path_eq_fillEach {op : Operation} {parts : List Part} (hparts : Legible parts)
    (hpath : op.path = String.ofList (parts.flatMap Part.source))
    (hnames : ∀ p ∈ op.pathParams, p.name ∈ Template.slots parts) {args : Members Value} {text : String}
    (h : path op args = .ok text) :
    text = String.ofList (fillEach (escaped args) (op.pathParams.map (·.name)) parts) := by
  obtain ⟨filled, hfilled, rfl⟩ := map_eq_ok_iff.mp h
  have hargs := (fill_isOk_iff args op.pathParams op.path.toList).mp ⟨filled, hfilled⟩
  have hplain : ∀ p ∈ op.pathParams, p.name ≠ "" ∧ '}' ∉ p.name.toList := fun p hp =>
    ⟨(hparts.isPlain_of_mem (hnames p hp)).1, (hparts.isPlain_of_mem (hnames p hp)).2.2⟩
  have hrun := fill_fillEach hparts hplain hargs []
  rw [Template.fillEach_no_names, ← String.toList_ofList (l := parts.flatMap _), ← hpath, hfilled,
    List.append_nil] at hrun
  rw [Except.ok.inj hrun]

/-- Each parameter fills one placeholder of its name, the first that is left, and all other text stays as it
is. So every placeholder is filled exactly when no name stands in the template more often than among the
path parameters; once is always enough. -/
theorem path_fills_in_turn {docs : List PathDocument} {d : Discovery} {op : Operation}
    (hop : op ∈ (Registry.build docs d).operations)
    (hnames : ∀ n ∈ Template.placeholders op.path, '{' ∉ n.toList) {args : Members Value} {text : String}
    (h : path op args = .ok text) :
    text = String.ofList
        (fillEach (escaped args) (op.pathParams.map (·.name)) (Template.parts op.path)) ∧
      (text = String.ofList ((Template.parts op.path).flatMap (Part.text (escaped args))) ↔
        ∀ n, (Template.placeholders op.path).count n ≤ (op.pathParams.map (·.name)).count n) ∧
      ((Template.placeholders op.path).Nodup →
        text = String.ofList ((Template.parts op.path).flatMap (Part.text (escaped args)))) := by
  have hslots := Template.slots_parts op.path
  have hparams (n : String) : n ∈ op.pathParams.map (·.name) ↔
      n ∈ Template.slots (Template.parts op.path) := by
    rw [Registry.mem_names_pathParams_iff hop, hslots]
  have hpath : op.path = String.ofList ((Template.parts op.path).flatMap Part.source) := by
    rw [Template.source_parts, String.ofList_toList]
  have htext := path_eq_fillEach (Template.legible_parts hnames) hpath
    (fun p hp => (hparams p.name).mp (List.mem_map_of_mem hp)) h
  refine ⟨htext, ?_, ?_⟩
  · rw [htext, String.ofList_inj, Template.fillEach_eq_iff (not_mem_escaped args), hslots]
  · intro hnodup
    rw [← hslots] at hnodup
    rw [htext, Template.fillEach_eq_of_nodup (not_mem_escaped args) hnodup fun n => (hparams n).mpr]

/-- A name that is declared twice fills two placeholders. Empty braces and a brace that is never closed stay,
and a placeholder without declaration has a parameter of its own. -/
theorem path_fills_in_turn_users :
    let id : Parameter := .declare "id" .path true none .string none
    let decl : OperationDecl := ⟨.get, none, none, [id], none⟩
    let doc : PathDocument :=
      ⟨"/users/\x7bid\x7d/\x7b\x7d/\x7bid\x7d-\x7bname\x7d\x7b", [id], [decl]⟩
    let op := Registry.operation "users_id_id_name" doc decl
    let args : Members Value := [("id", .int 7), ("name", .string "a/\x7bid\x7d")]
    op ∈ (Registry.build [doc] (.all true)).operations ∧
      (∀ n ∈ Template.placeholders op.path, '{' ∉ n.toList) ∧
      path op args = .ok "/users/7/\x7b\x7d/7-a%2F%7Bid%7D\x7b" ∧
      String.ofList ((Template.parts op.path).flatMap (Part.text (escaped args))) =
        "/users/7/\x7b\x7d/7-a%2F%7Bid%7D\x7b" := by
  intro id decl doc op args
  have hop : op ∈ (Registry.build [doc] (.all true)).operations := by decide +kernel
  have hnames : ∀ n ∈ Template.placeholders op.path, '{' ∉ n.toList := by decide +kernel
  have hpath : path op args = .ok "/users/7/\x7b\x7d/7-a%2F%7Bid%7D\x7b" := by decide +kernel
  have hplaceholders : Template.placeholders op.path = ["id", "id", "name"] := by decide +kernel
  have hparams : op.pathParams.map (·.name) = ["id", "id", "name"] := by decide +kernel
  obtain ⟨-, hall, -⟩ := path_fills_in_turn hop hnames hpath
  exact ⟨hop, hnames, hpath, (hall.mpr fun n => by rw [hplaceholders, hparams]).symm⟩

/-- A name that is declared once and stands twice in the template: its second placeholder is left. -/
theorem path_leaves_friends :
    let decl : OperationDecl := ⟨.get, none, none, [], none⟩
    let doc : PathDocument := ⟨"/users/\x7bid\x7d/friends/\x7bid\x7d",
      [.declare "id" .path true none .string none], [decl]⟩
    let op := Registry.operation "users_id_friends_id" doc decl
    let args : Members Value := [("id", .string "7")]
    op ∈ (Registry.build [doc] (.all true)).operations ∧
      (∀ n ∈ Template.placeholders op.path, '{' ∉ n.toList) ∧
      path op args = .ok "/users/7/friends/\x7bid\x7d" ∧
      String.ofList ((Template.parts op.path).flatMap (Part.text (escaped args))) =
        "/users/7/friends/7" ∧
      path op args ≠ .ok (String.ofList ((Template.parts op.path).flatMap (Part.text (escaped args)))) := by
  intro decl doc op args
  have hpath : path op args = .ok "/users/7/friends/\x7bid\x7d" := by decide +kernel
  have hfull : String.ofList ((Template.parts op.path).flatMap (Part.text (escaped args))) =
      "/users/7/friends/7" := by
    decide +kernel
  refine ⟨by decide +kernel, by decide +kernel, hpath, hfull, ?_⟩
  rw [hpath, hfull]
  decide

end RequestUrl
end ApiToolbox

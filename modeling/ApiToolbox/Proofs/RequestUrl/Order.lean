import ApiToolbox.Proofs.RequestUrl.Path
import ApiToolbox.Proofs.Template.Occurrences

/-! The path of a request and the order of its parameters. Arguments are filled in one after the other, each
into the text that the others have left, and still neither their order nor what they say can move a
placeholder: the path is that of the template alone, with the first occurrences of each name filled in. -/

namespace ApiToolbox

open Json (Value)
open Template (Part fillEach fillTimes)

namespace RequestUrl

/-- The parameters may come in any order. The path is the template with, of each placeholder, as many first
occurrences filled in as its name comes among the path parameters, each with the escaped argument; all other
text stays as it is. The occurrences of a placeholder are those in the text of the template. -/
theorem path_of_perm {docs : List PathDocument} {d : Discovery} {op : Operation}
    (hop : op ∈ (Registry.build docs d).operations)
    (hnames : ∀ n ∈ Template.placeholders op.path, '{' ∉ n.toList) {args : Members Value} {text : String}
    (h : path op args = .ok text) {params : List Parameter} (hperm : params.Perm op.pathParams) :
    path { op with pathParams := params } args = .ok text ∧
      text = String.ofList (fillTimes (escaped args)
        (fun n => (op.pathParams.map (·.name)).count n) (Template.parts op.path)) ∧
      ∀ n ∈ Template.placeholders op.path, ∀ as bs : List Char,
        op.path.toList = as ++ (Template.placeholder n ++ bs) ↔
          ∃ before after, Template.parts op.path = before ++ .slot n :: after ∧
            before.flatMap Part.source = as ∧ after.flatMap Part.source = bs := by
  have hslots := Template.slots_parts op.path
  have hparts := Template.legible_parts hnames
  have hpath : op.path = String.ofList ((Template.parts op.path).flatMap Part.source) := by
    rw [Template.source_parts, String.ofList_toList]
  have hparams : ∀ p ∈ op.pathParams, p.name ∈ Template.slots (Template.parts op.path) := by
    intro p hp
    rw [hslots, ← Registry.mem_names_pathParams_iff hop]
    exact List.mem_map_of_mem hp
  have htext := path_eq_fillEach hparts hpath hparams h
  refine ⟨?_, ?_, fun n hn as bs => ?_⟩
  · set permuted : Operation := { op with pathParams := params }
    have hready := (path_isOk_iff op args).mp ⟨text, h⟩
    obtain ⟨other, hother⟩ : ∃ other, path permuted args = .ok other :=
      (path_isOk_iff permuted args).mpr fun p hp => hready p (hperm.mem_iff.mp hp)
    have hotherPath : permuted.path = String.ofList ((Template.parts op.path).flatMap Part.source) :=
      hpath
    have hotherText := path_eq_fillEach hparts hotherPath
      (fun p hp => hparams p (hperm.mem_iff.mp hp)) hother
    have hsame : fillEach (escaped args) (params.map (·.name)) (Template.parts op.path) =
        fillEach (escaped args) (op.pathParams.map (·.name)) (Template.parts op.path) :=
      Template.fillEach_perm (hperm.map (·.name)) _
    rw [hother, hotherText, htext, hsame]
  · rw [htext, Template.fillEach_eq_fillTimes]
  · have hplain := hparts.isPlain_of_mem (hslots ▸ hn)
    rw [← Template.source_eq_append_iff hparts hplain, Template.source_parts]

/-- Arguments that look like placeholders, a name that comes twice among the parameters and three times in the
template, and stray braces next to it: in every order the path is the same. -/
theorem path_of_perm_items :
    let declare (name : String) : Parameter := .declare name .path true none .string none
    let decl : OperationDecl := ⟨.get, none, none, [declare "a"], none⟩
    let doc : PathDocument :=
      ⟨"/\x7ba\x7dx\x7bb\x7d\x7d/\x7ba\x7d/\x7b\x7d/\x7ba\x7d\x7bc", [declare "a", declare "b"], [decl]⟩
    let op := Registry.operation "axb_a_ac" doc decl
    let args : Members Value := [("a", .string "\x7bb\x7d"), ("b", .string "a\x7d")]
    let params := [declare "b", declare "a", declare "a"]
    let text := "/%7Bb%7Dxa%7D\x7d/%7Bb%7D/\x7b\x7d/\x7ba\x7d\x7bc"
    op ∈ (Registry.build [doc] (.all true)).operations ∧
      (∀ n ∈ Template.placeholders op.path, '{' ∉ n.toList) ∧
      path op args = .ok text ∧ params.Perm op.pathParams ∧
      path { op with pathParams := params } args = .ok text := by
  intro declare decl doc op args params text
  have hop : op ∈ (Registry.build [doc] (.all true)).operations := by decide +kernel
  have hnames : ∀ n ∈ Template.placeholders op.path, '{' ∉ n.toList := by decide +kernel
  have hpath : path op args = .ok text := by decide +kernel
  have hperm : params.Perm op.pathParams := by decide +kernel
  exact ⟨hop, hnames, hpath, hperm, (path_of_perm hop hnames hpath hperm).1⟩

end RequestUrl
end ApiToolbox

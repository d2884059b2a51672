import ApiToolbox.Proofs.Json.Members
import ApiToolbox.Proofs.Text.Utf8
import ApiToolbox.Proofs.ToolName
import ApiToolbox.Registry
import Mathlib.Data.List.Forall2
import Mathlib.Data.String.Basic

/-! The names in a registry. However many paths suggest one name, and whatever names look like
generated ones, the operations have distinct names of words, ascend by them, and are found by them. -/

namespace ApiToolbox.Registry

/-! ### Naming in turn -/

/-- Names that are given are not in use before, and are names of words. -/
theorem tool_of_mem_name {used : List String} {l : List (PathDocument × OperationDecl)}
    {op : Operation} (h : op ∈ name used l) : op.tool ∉ used ∧ ToolName.IsWords op.tool := by
  induction l generalizing used with
  | nil => simp [name] at h
  | cons e rest ih =>
    obtain ⟨doc, decl⟩ := e
    rcases List.mem_cons.mp h with rfl | h
    · exact ⟨ToolName.assign_not_mem used decl.method doc.path,
        ToolName.isWords_assign used decl.method doc.path⟩
    · obtain ⟨hused, hwords⟩ := ih h
      exact ⟨fun hmem => hused (List.mem_cons_of_mem _ hmem), hwords⟩

theorem nodup_tools_name (used : List String) (l : List (PathDocument × OperationDecl)) :
    ((name used l).map (·.tool)).Nodup := by
  induction l generalizing used with
  | nil => simp [name]
  | cons e rest ih =>
    obtain ⟨doc, decl⟩ := e
    refine List.nodup_cons.mpr ⟨fun hmem => ?_, ih _⟩
    obtain ⟨op, hop, heq⟩ := List.mem_map.mp hmem
    exact (tool_of_mem_name hop).1 (heq ▸ List.mem_cons_self)

/-- Naming makes of each declaration its operation, in order. -/
theorem forall₂_name (used : List String) (l : List (PathDocument × OperationDecl)) :
    List.Forall₂ (fun e op => op = operation op.tool e.1 e.2) l (name used l) := by
  induction l generalizing used with
  | nil => exact .nil
  | cons e rest ih => exact .cons rfl (ih _)

/-! ### Sorting -/

theorem operations_build_perm (docs : List PathDocument) (d : Discovery) :
    (build docs d).operations.Perm (name [ToolName.reserved] (chosen docs d)) :=
  List.mergeSort_perm _ _

theorem nodup_tools_build (docs : List PathDocument) (d : Discovery) :
    ((build docs d).operations.map (·.tool)).Nodup :=
  ((operations_build_perm docs d).map _).nodup_iff.mpr (nodup_tools_name _ _)

theorem tool_of_mem_build {docs : List PathDocument} {d : Discovery} {op : Operation}
    (h : op ∈ (build docs d).operations) :
    op.tool ≠ ToolName.reserved ∧ ToolName.IsWords op.tool := by
  obtain ⟨hused, hwords⟩ := tool_of_mem_name ((operations_build_perm docs d).mem_iff.mp h)
  exact ⟨by simpa using hused, hwords⟩

theorem pairwise_tool_lt_build (docs : List PathDocument) (d : Discovery) :
    (build docs d).operations.Pairwise fun a b => a.tool < b.tool := by
  have hle : (build docs d).operations.Pairwise fun a b => decide (a.tool ≤ b.tool) = true :=
    List.pairwise_mergeSort
      (fun a b c hab hbc => by simpa using le_trans (by simpa using hab) (by simpa using hbc))
      (fun a b => by simpa using le_total a.tool b.tool) _
  have hne : (build docs d).operations.Pairwise fun a b => a.tool ≠ b.tool :=
    List.pairwise_map.mp (nodup_tools_build docs d)
  exact hle.imp₂ (fun a b hle hne => lt_of_le_of_ne (by simpa using hle) hne) hne

/-! ### Looking up -/

theorem get?_placesOf_eq_some_iff {ops : List Operation} (h : (ops.map (·.tool)).Nodup)
    (tool : String) (i : Nat) :
    (placesOf ops).get? tool = some i ↔ ∃ op, ops[i]? = some op ∧ op.tool = tool := by
  have hkeys : ((ops.zipIdx.map fun e => (e.1.tool, e.2)).map (·.1)).Nodup := by
    have hfst : ((ops.zipIdx.map Prod.fst).map (·.tool)) = ops.map (·.tool) := by
      rw [List.zipIdx_map_fst]
    rw [← hfst, List.map_map] at h
    rwa [List.map_map]
  rw [placesOf, Members.get?_ofList_eq_some_iff hkeys]
  simp [List.mem_zipIdx_iff_getElem?]

theorem get?_ofOperations_eq_some_iff {ops : List Operation} (h : (ops.map (·.tool)).Nodup)
    (tool : String) (op : Operation) :
    (ofOperations ops).get? tool = some op ↔ op ∈ ops ∧ op.tool = tool := by
  have hplace := get?_placesOf_eq_some_iff h tool
  rw [get?, Option.bind_eq_some_iff]
  constructor
  · rintro ⟨i, hi, hop⟩
    obtain ⟨op', hop', htool⟩ := (hplace i).mp hi
    obtain rfl : op = op' := Option.some.inj (hop.symm.trans hop')
    exact ⟨List.mem_of_getElem? hop, htool⟩
  · rintro ⟨hmem, htool⟩
    obtain ⟨i, hi⟩ := List.getElem?_of_mem hmem
    exact ⟨i, (hplace i).mpr ⟨op, hi, htool⟩, hi⟩

theorem get?_build_eq_some_iff (docs : List PathDocument) (d : Discovery) (tool : String)
    (op : Operation) :
    (build docs d).get? tool = some op ↔ op ∈ (build docs d).operations ∧ op.tool = tool :=
  get?_ofOperations_eq_some_iff (nodup_tools_build docs d) tool op

/-! ### The promise of naming -/

/-- What callers may rely on: distinct names of words that ascend by their bytes, none of them the
reserved one, and exactly the operations are found, each by its name. -/
structure WellNamed (r : Registry) : Prop where
  nodup : (r.operations.map (·.tool)).Nodup
  ascending : r.operations.Pairwise fun a b =>
    Text.Utf8.encode a.tool.toList < Text.Utf8.encode b.tool.toList
  unreserved : ∀ op ∈ r.operations, op.tool ≠ ToolName.reserved
  isWords : ∀ op ∈ r.operations, ToolName.IsWords op.tool
  get?_eq_some_iff : ∀ tool op, r.get? tool = some op ↔ op ∈ r.operations ∧ op.tool = tool

/-- Every registry that is built names all chosen operations well, whatever their paths are and in
whatever order they come. -/
theorem wellNamed_build (docs : List PathDocument) (d : Discovery) :
    (build docs d).WellNamed ∧ (build docs d).size = (chosen docs d).length where
  left :=
    { nodup := nodup_tools_build docs d
      ascending := by
        have hascii : ∀ op ∈ (build docs d).operations, ∀ c ∈ op.tool.toList, c.toNat < 128 :=
          fun op hop => (tool_of_mem_build hop).2.ascii
        refine (pairwise_tool_lt_build docs d).imp_of_mem fun ha hb hlt => ?_
        exact Text.Utf8.encode_lt_encode (hascii _ ha) (hascii _ hb) hlt
      unreserved := fun op hop => (tool_of_mem_build hop).1
      isWords := fun op hop => (tool_of_mem_build hop).2
      get?_eq_some_iff := get?_build_eq_some_iff docs d }
  right := by
    rw [size, (operations_build_perm docs d).length_eq, (forall₂_name _ _).length_eq]

end ApiToolbox.Registry

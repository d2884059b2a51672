import ApiToolbox.Proofs.Registry.Names
import ApiToolbox.Proofs.Registry.PathParameters
import ApiToolbox.Proofs.Steps

/-! What a registry holds. Its operations are those of the chosen declarations, one for each, and the
path parameters of each are the placeholders of its path. -/

namespace ApiToolbox

/-- The parameters that are listed for the path go there, and so do those for the query. -/
structure Operation.WellPlaced (op : Operation) : Prop where
  path : ∀ p ∈ op.pathParams, p.location = .path
  query : ∀ p ∈ op.queryParams, p.location = .query

namespace Registry

/-- Every operation of a registry is that of a chosen declaration. -/
theorem exists_operation_of_mem_build {docs : List PathDocument} {d : Discovery} {op : Operation}
    (h : op ∈ (build docs d).operations) :
    ∃ doc decl, (doc, decl) ∈ chosen docs d ∧ op = operation op.tool doc decl := by
  have hname := (operations_build_perm docs d).mem_iff.mp h
  obtain ⟨⟨doc, decl⟩, hmem, hop⟩ := exists_of_mem_forall₂ (forall₂_name _ _) hname
  exact ⟨doc, decl, hmem, hop⟩

/-! ### Endpoints -/

/-- Where an operation stands in an index. -/
def endpoint (op : Operation) : String × Method := (op.path, op.method)

theorem map_endpoint_name (used : List String) (l : List (PathDocument × OperationDecl)) :
    (name used l).map endpoint = l.map fun (doc, decl) => (doc.path, decl.method) := by
  have heq : List.Forall₂ (· = ·) ((name used l).map endpoint)
      (l.map fun (doc, decl) => (doc.path, decl.method)) := by
    rw [List.forall₂_map_left_iff, List.forall₂_map_right_iff]
    refine (forall₂_name used l).flip.imp fun op e hop => ?_
    rw [hop]
    rfl
  rwa [List.forall₂_eq_eq_eq] at heq

theorem endpoints_build_perm (docs : List PathDocument) (d : Discovery) :
    ((build docs d).operations.map endpoint).Perm
      ((chosen docs d).map fun (doc, decl) => (doc.path, decl.method)) := by
  have hperm := (operations_build_perm docs d).map endpoint
  rwa [map_endpoint_name] at hperm

/-- What is chosen of one path and one method, if the choice allows them. -/
theorem filter_chosen (docs : List PathDocument) {d : Discovery} {path : String} {method : Method}
    (hallowed : d.allows method.name path) :
    (chosen docs d).filter (fun (doc, decl) => doc.path = path ∧ decl.method = method) =
      (docs.filter (·.path = path)).flatMap fun doc =>
        (doc.operations.filter (·.method = method)).map (doc, ·) := by
  rw [chosen, List.filter_filter]
  induction docs with
  | nil => rfl
  | cons doc rest ih =>
    rw [List.flatMap_cons, List.filter_append, ih, List.filter_map]
    by_cases hpath : doc.path = path
    · rw [List.filter_cons_of_pos (by simpa using hpath), List.flatMap_cons]
      congr 2
      refine List.filter_congr fun decl _ => ?_
      by_cases hmethod : decl.method = method
      · simp [hpath, hmethod, hallowed]
      · simp [hmethod]
    · simp [hpath, Function.comp_def]

/-- Where one document has a path, and declares one operation of a method, a choice that allows these gives
one operation, the declared one. -/
theorem exists_filter_build {docs : List PathDocument} {d : Discovery} {path : String}
    {method : Method} {doc : PathDocument} {decl : OperationDecl}
    (hallowed : d.allows method.name path) (hdoc : docs.filter (·.path = path) = [doc])
    (hdecl : doc.operations.filter (·.method = method) = [decl]) :
    ∃ op, (build docs d).operations.filter (fun op => op.path = path ∧ op.method = method) = [op] ∧
      op = operation op.tool doc decl := by
  have hchosen : (chosen docs d).filter (fun (doc, decl) => doc.path = path ∧ decl.method = method) =
      [(doc, decl)] := by
    rw [filter_chosen docs hallowed, hdoc]
    simp [hdecl]
  have hcount : ((build docs d).operations.filter fun op => op.path = path ∧ op.method = method).length =
      ((chosen docs d).filter fun (doc, decl) => doc.path = path ∧ decl.method = method).length := by
    have hperm := (endpoints_build_perm docs d).countP_eq fun (p, m) => p = path ∧ m = method
    rw [List.countP_map, List.countP_map] at hperm
    rwa [← List.countP_eq_length_filter, ← List.countP_eq_length_filter]
  rw [hchosen] at hcount
  obtain ⟨op, hop⟩ := List.length_eq_one_iff.mp hcount
  refine ⟨op, hop, ?_⟩
  have hmem := List.mem_filter.mp (hop ▸ List.mem_singleton_self op :
    op ∈ (build docs d).operations.filter fun op => op.path = path ∧ op.method = method)
  -- The operation is that of some declaration, which is chosen for the same path and method.
  obtain ⟨doc', decl', hmem', heq⟩ := exists_operation_of_mem_build hmem.1
  have hsame : (doc', decl') ∈ (chosen docs d).filter
      fun (doc, decl) => doc.path = path ∧ decl.method = method := by
    rw [heq] at hmem
    exact List.mem_filter.mpr ⟨hmem', hmem.2⟩
  rw [hchosen] at hsame
  obtain ⟨rfl, rfl⟩ := Prod.mk.inj (List.mem_singleton.mp hsame)
  exact heq

/-! ### Path parameters -/

theorem mem_names_pathParams_iff {docs : List PathDocument} {d : Discovery} {op : Operation}
    (h : op ∈ (build docs d).operations) (n : String) :
    n ∈ op.pathParams.map (·.name) ↔ n ∈ Template.placeholders op.path := by
  obtain ⟨doc, decl, -, hop⟩ := exists_operation_of_mem_build h
  rw [hop]
  exact mem_names_reconcile_iff ..

/-! ### Locations -/

theorem pathParams_operation (tool : String) (doc : PathDocument) (decl : OperationDecl) :
    (operation tool doc decl).pathParams =
      reconcile doc.path ((doc.shared ++ decl.parameters).filter (·.location = .path)) := by
  simp only [operation, partitionByLocation, OperationDecl.allParameters,
    List.partition_eq_filter_filter]

theorem queryParams_operation (tool : String) (doc : PathDocument) (decl : OperationDecl) :
    (operation tool doc decl).queryParams =
      (doc.shared ++ decl.parameters).filter (·.location = .query) := by
  have hother : ∀ p : Parameter, (!decide (p.location = .path)) = decide (p.location = .query) := by
    intro p
    cases p.location <;> rfl
  simp only [operation, partitionByLocation, OperationDecl.allParameters,
    List.partition_eq_filter_filter]
  exact List.filter_congr fun p _ => hother p

theorem wellPlaced_of_mem_build {docs : List PathDocument} {d : Discovery} {op : Operation}
    (h : op ∈ (build docs d).operations) : op.WellPlaced := by
  obtain ⟨doc, decl, -, hop⟩ := exists_operation_of_mem_build h
  rw [hop]
  constructor
  · rw [pathParams_operation]
    refine forall_mem_reconcile (fun p hp => ?_) fun n => rfl
    simpa using (List.mem_filter.mp hp).2
  · intro p hp
    rw [queryParams_operation] at hp
    simpa using (List.mem_filter.mp hp).2

end Registry
end ApiToolbox

import ApiToolbox.Document
import ApiToolbox.Proofs.Json.Members
import ApiToolbox.Proofs.Steps
import Mathlib.Tactic.SplitIfs

/-! The values of documents. Whatever a text repeats, no object of its value has a key twice. -/

namespace ApiToolbox

open Json (Value)

namespace Json

/-- No object within the value has a key twice. -/
inductive Value.Distinct : Value → Prop where
  | null : Distinct .null
  | bool (b : Bool) : Distinct (.bool b)
  | number (n : Number) : Distinct (.number n)
  | string (s : String) : Distinct (.string s)
  | array {items : List Value} (h : ∀ v ∈ items, v.Distinct) : Distinct (.array items)
  | object {members : Members Value} (hkeys : members.keys.Nodup)
      (h : ∀ m ∈ members, m.2.Distinct) : Distinct (.object members)

/-- The members of an object without repeated keys, inside and out. -/
def DistinctMembers (ms : Members Value) : Prop := ms.keys.Nodup ∧ ∀ m ∈ ms, m.2.Distinct

theorem DistinctMembers.nil : DistinctMembers [] := ⟨by simp [Members.keys], by simp⟩

theorem DistinctMembers.put {ms : Members Value} (h : DistinctMembers ms) (key : String) {v : Value}
    (hv : v.Distinct) : DistinctMembers (ms.put key v) := by
  refine ⟨Members.nodup_keys_put h.1 key v, fun m hm => ?_⟩
  rcases Members.mem_put hm with rfl | hm
  · exact hv
  · exact h.2 m hm

theorem DistinctMembers.ofList {es : List (String × Value)} (h : ∀ e ∈ es, e.2.Distinct) :
    DistinctMembers (Members.ofList es) := by
  induction es using List.reverseRecOn with
  | nil => exact DistinctMembers.nil
  | append_singleton es e ih =>
    rw [Members.ofList_concat]
    exact (ih fun e he => h e (by simp [he])).put e.1 (h e (by simp))

/-! ### Values of JSON texts -/

/-- Every value that a reader gives satisfies a predicate. -/
def Gives (p : Value → Prop) (x : Except Stop (Value × List Char)) : Prop :=
  ∀ v rest, x = .ok (v, rest) → p v

section Gives

variable {p : Value → Prop}

theorem gives_error (s : Stop) : Gives p (.error s) := by
  intro v rest h
  cases h

theorem gives_ok {v : Value} (h : p v) (rest : List Char) : Gives p (.ok (v, rest)) := by
  intro w rest' heq
  obtain ⟨rfl, rfl⟩ := Prod.mk.inj (Except.ok.inj heq)
  exact h

theorem gives_map {α : Type} {x : Except Stop (α × List Char)} {f : α → Value}
    (h : ∀ a, p (f a)) : Gives p (x.map fun (a, rest) => (f a, rest)) := by
  intro v rest heq
  obtain ⟨⟨a, rest'⟩, -, heq⟩ := map_eq_ok_iff.mp heq
  obtain ⟨rfl, rfl⟩ := Prod.mk.inj heq
  exact h a

theorem gives_bind {α : Type} {x : Except Stop (α × List Char)}
    {f : α × List Char → Except Stop (Value × List Char)}
    (h : ∀ a rest, x = .ok (a, rest) → Gives p (f (a, rest))) : Gives p (x >>= f) := by
  intro v rest heq
  obtain ⟨⟨a, rest'⟩, hx, hf⟩ := bind_eq_ok_iff.mp heq
  exact h a rest' hx v rest hf

theorem gives_literal {v : Value} (h : p v) (es cs : List Char) : Gives p (literal v es cs) := by
  induction es generalizing cs with
  | nil => exact gives_ok h cs
  | cons e es ih =>
    cases cs with
    | nil => exact gives_error _
    | cons c cs =>
      rw [literal]
      split
      · exact ih cs
      · exact gives_error _

theorem gives_ite {c : Prop} [Decidable c] {x y : Except Stop (Value × List Char)}
    (hx : c → Gives p x) (hy : ¬ c → Gives p y) : Gives p (if c then x else y) := by
  split
  · next h => exact hx h
  · next h => exact hy h

/-! What a list or an object gives is told at its closing character and where the next item or member is read. -/

variable {repeats : Repeats} {fuel depth : Nat} {first : Bool}

theorem gives_items_of_next {acc : List Value} (hend : p (.array acc.reverse))
    (hnext : ∀ cs, Gives p (value repeats fuel depth cs >>= fun read =>
      items repeats fuel depth false (read.1 :: acc) read.2)) (cs : List Char) :
    Gives p (items repeats (fuel + 1) depth first acc cs) := by
  rw [items]
  split
  · exact gives_error _
  · next c r _ =>
    refine gives_ite (fun _ => gives_ok hend r) fun _ => ?_
    refine gives_ite (fun _ => hnext _) fun _ => ?_
    refine gives_ite (fun _ => ?_) fun _ => gives_error _
    split
    · exact gives_error _
    · exact gives_ite (fun _ => gives_error _) fun _ => hnext _

theorem gives_members_of_next {acc : Members Value} (hend : p (.object acc))
    (hnext : ∀ cs, Gives p (member repeats fuel depth acc cs)) (cs : List Char) :
    Gives p (members repeats (fuel + 1) depth first acc cs) := by
  rw [members]
  split
  · exact gives_error _
  · next c r _ =>
    refine gives_ite (fun _ => gives_ok hend r) fun _ => ?_
    refine gives_ite (fun _ => ?_) fun _ => ?_
    · exact gives_ite (fun _ => hnext r) fun _ => gives_error _
    · refine gives_ite (fun _ => ?_) fun _ => gives_error _
      split
      · exact gives_error _
      · next d r _ =>
        refine gives_ite (fun _ => hnext r) fun _ => ?_
        exact gives_ite (fun _ => gives_error _) fun _ => gives_error _

theorem gives_member_of_next {acc : Members Value}
    (hnext : ∀ key v cs rest, value repeats fuel depth cs = .ok (v, rest) →
      Gives p (members repeats fuel depth false (repeats.add acc key v) rest)) (cs : List Char) :
    Gives p (member repeats (fuel + 1) depth acc cs) := by
  rw [member]
  refine gives_bind fun key rest _ => ?_
  dsimp only
  split
  · exact gives_error _
  · next c r _ =>
    refine gives_ite (fun _ => ?_) fun _ => gives_error _
    exact gives_bind fun v rest hv => hnext key v r rest hv

end Gives

/-- What reading with a bound on the steps gives, for each of the four readers. -/
structure ReadsDistinct (fuel : Nat) : Prop where
  value : ∀ depth cs, Gives Value.Distinct (value .merged fuel depth cs)
  items : ∀ depth first acc cs, (∀ v ∈ acc, v.Distinct) →
    Gives Value.Distinct (items .merged fuel depth first acc cs)
  members : ∀ depth first acc cs, DistinctMembers acc →
    Gives Value.Distinct (members .merged fuel depth first acc cs)
  member : ∀ depth acc cs, DistinctMembers acc →
    Gives Value.Distinct (member .merged fuel depth acc cs)

/-! What one step more gives, for each of the readers. -/

section Step

variable {fuel : Nat}

theorem gives_value_succ (ih : ReadsDistinct fuel) (depth : Nat) (cs : List Char) :
    Gives Value.Distinct (value .merged (fuel + 1) depth cs) := by
  rw [value]
  split
  · exact gives_error _
  · next c r _ =>
    refine gives_ite (fun _ => gives_literal .null _ _) fun _ => ?_
    refine gives_ite (fun _ => gives_literal (.bool _) _ _) fun _ => ?_
    refine gives_ite (fun _ => gives_literal (.bool _) _ _) fun _ => ?_
    refine gives_ite (fun _ => gives_map .number) fun _ => ?_
    refine gives_ite (fun _ => gives_map .number) fun _ => ?_
    refine gives_ite (fun _ => gives_map .string) fun _ => ?_
    refine gives_ite (fun _ => ?_) fun _ => ?_
    · cases depth with
      | zero => exact gives_error _
      | succ depth => exact ih.items depth true [] r (by simp)
    · refine gives_ite (fun _ => ?_) fun _ => gives_error _
      cases depth with
      | zero => exact gives_error _
      | succ depth => exact ih.members depth true [] r DistinctMembers.nil

theorem gives_items_succ (ih : ReadsDistinct fuel) (depth : Nat) (first : Bool) {acc : List Value}
    (hacc : ∀ v ∈ acc, v.Distinct) (cs : List Char) :
    Gives Value.Distinct (items .merged (fuel + 1) depth first acc cs) := by
  refine gives_items_of_next (.array (by simpa using hacc)) (fun cs => ?_) cs
  refine gives_bind fun v rest hv => ih.items depth false (v :: acc) rest ?_
  exact List.forall_mem_cons.mpr ⟨ih.value depth cs v rest hv, hacc⟩

theorem gives_members_succ (ih : ReadsDistinct fuel) (depth : Nat) (first : Bool)
    {acc : Members Value} (hacc : DistinctMembers acc) (cs : List Char) :
    Gives Value.Distinct (members .merged (fuel + 1) depth first acc cs) :=
  gives_members_of_next (.object hacc.1 hacc.2) (fun cs => ih.member depth acc cs hacc) cs

theorem gives_member_succ (ih : ReadsDistinct fuel) (depth : Nat) {acc : Members Value}
    (hacc : DistinctMembers acc) (cs : List Char) :
    Gives Value.Distinct (member .merged (fuel + 1) depth acc cs) := by
  refine gives_member_of_next (fun key v cs rest hv => ?_) cs
  exact ih.members depth false (acc.put key v) rest (hacc.put key (ih.value depth cs v rest hv))

end Step

theorem readsDistinct (fuel : Nat) : ReadsDistinct fuel := by
  induction fuel with
  | zero =>
    refine ⟨fun _ _ => ?_, fun _ _ _ _ _ => ?_, fun _ _ _ _ _ => ?_, fun _ _ _ _ => ?_⟩
    · rw [value]
      exact gives_error _
    · rw [items]
      exact gives_error _
    · rw [members]
      exact gives_error _
    · rw [member]
      exact gives_error _
  | succ fuel ih =>
    exact
      { value := gives_value_succ ih
        items := fun depth first _ cs hacc => gives_items_succ ih depth first hacc cs
        members := fun depth first _ cs hacc => gives_members_succ ih depth first hacc cs
        member := fun depth _ cs hacc => gives_member_succ ih depth hacc cs }

/-- A text is read as a value when the value and white space are all there is of it. -/
theorem parse_eq_ok_iff {text : String} {v : Value} : parse text = .ok v ↔
    ∃ rest, value .merged (3 * text.toList.length + 3) depthLimit text.toList = .ok (v, rest) ∧
      skipSpace rest = [] := by
  rw [parse, mapError_eq_ok_iff, document, bind_eq_ok_iff]
  constructor
  · rintro ⟨⟨w, rest⟩, hread, htail⟩
    dsimp only at htail
    split at htail
    · next hrest =>
      obtain rfl := Except.ok.inj htail
      exact ⟨rest, hread, hrest⟩
    · cases htail
  · rintro ⟨rest, hread, hrest⟩
    refine ⟨(v, rest), hread, ?_⟩
    dsimp only
    rw [hrest]

theorem distinct_of_parse {text : String} {v : Value} (h : parse text = .ok v) : v.Distinct := by
  obtain ⟨rest, hread, -⟩ := parse_eq_ok_iff.mp h
  exact (readsDistinct _).value _ _ v rest hread

end Json

namespace Yaml

/-! ### Values of YAML texts -/

theorem distinct_of_floatValue? {s : String} {v : Value} (h : Scalar.floatValue? s = some v) :
    v.Distinct := by
  unfold Scalar.floatValue? at h
  split at h
  · obtain rfl := Option.some.inj h
    exact .null
  · obtain ⟨x, -, rfl⟩ := Option.map_eq_some_iff.mp h
    exact .number _

theorem distinct_of_plainValue? {s : String} {v : Value} (h : Scalar.plainValue? s = some v) :
    v.Distinct := by
  unfold Scalar.plainValue? at h
  split at h
  · obtain rfl := Option.some.inj h
    exact .null
  · split at h
    · obtain rfl := Option.some.inj h
      exact .bool _
    · split at h
      · obtain rfl := Option.some.inj h
        exact .number _
      · cases h
      · split at h
        · obtain rfl := Option.some.inj h
          exact .string _
        · obtain rfl := Option.some.inj h
          cases hf : Scalar.floatValue? s with
          | none => exact .string _
          | some w => exact distinct_of_floatValue? hf

theorem distinct_of_scalar {tag : Option String} {style : Style} {s : String} {v : Value}
    (h : Scalar.value? tag style s = some v) : v.Distinct := by
  unfold Scalar.value? at h
  split at h
  · split_ifs at h
    · obtain ⟨b, -, rfl⟩ := Option.map_eq_some_iff.mp h
      exact .bool b
    · split at h
      · obtain rfl := Option.some.inj h
        exact .number _
      · cases h
    · exact distinct_of_floatValue? h
    · obtain rfl := Option.some.inj h
      exact .null
    · obtain rfl := Option.some.inj h
      exact .string _
  · split at h
    · exact distinct_of_plainValue? h
    · obtain rfl := Option.some.inj h
      exact .string _

theorem exists_of_mem_mapM {α β σ : Type} {f : α → StateT σ Option β} {as : List α} {bs : List β}
    {s s' : σ} (h : (as.mapM f).run s = some (bs, s')) :
    ∀ b ∈ bs, ∃ a ∈ as, ∃ s s', (f a).run s = some (b, s') := by
  induction as generalizing s bs with
  | nil =>
    obtain ⟨rfl, rfl⟩ : [] = bs ∧ s = s' := by simpa using h
    simp
  | cons a rest ih =>
    simp only [List.mapM_cons, StateT.run_bind, Option.bind_eq_bind, Option.bind_eq_some_iff,
      StateT.run_pure, Option.pure_def, Option.some.injEq, Prod.mk.injEq, Prod.exists] at h
    obtain ⟨b, s₁, hb, bs', s₂, hbs, rfl, rfl⟩ := h
    intro c hc
    rcases List.mem_cons.mp hc with rfl | hc
    · exact ⟨a, by simp, s, s₁, hb⟩
    · obtain ⟨a', ha', hf⟩ := ih hbs c hc
      exact ⟨a', by simp [ha'], hf⟩

theorem distinct_of_run_scalar {tag : Option String} {style : Style} {text : String} {s s' : Nat}
    {v : Value} (h : (liftM (Scalar.value? tag style text) : StateT Nat Option Value).run s = some (v, s')) :
    v.Distinct := by
  cases hscalar : Scalar.value? tag style text with
  | none => simp [hscalar] at h
  | some w =>
    obtain ⟨rfl, rfl⟩ : w = v ∧ s = s' := by simpa [hscalar] using h
    exact distinct_of_scalar hscalar

theorem Document.distinct_of_nodeValue (d : Document) (depth : Nat) (n : Node) {s s' : Nat} {v : Value}
    (h : (d.nodeValue depth n).run s = some (v, s')) : v.Distinct := by
  induction depth generalizing n s s' v with
  | zero =>
    rw [nodeValue.eq_def] at h
    simp only [StateT.run_bind, Option.bind_eq_bind, Option.bind_eq_some_iff, Prod.exists] at h
    obtain ⟨node, s₁, -, h⟩ := h
    split at h
    · exact distinct_of_run_scalar h
    all_goals simp at h
  | succ depth ih =>
    rw [nodeValue.eq_def] at h
    simp only [StateT.run_bind, Option.bind_eq_bind, Option.bind_eq_some_iff, Prod.exists] at h
    obtain ⟨node, s₁, -, h⟩ := h
    split at h
    · exact distinct_of_run_scalar h
    · next tag items =>
      split at h
      · simp at h
      · simp only [StateT.run_bind, Option.bind_eq_bind, Option.bind_eq_some_iff, Prod.exists] at h
        obtain ⟨vs, s₂, hvs, h⟩ := h
        obtain ⟨rfl, -⟩ : Value.array vs = v ∧ s₂ = s' := by simpa using h
        refine .array fun w hw => ?_
        obtain ⟨item, -, s₃, s₄, hitem⟩ := exists_of_mem_mapM hvs w hw
        exact ih item hitem
    · next tag entries =>
      split at h
      · simp at h
      · simp only [StateT.run_bind, Option.bind_eq_bind, Option.bind_eq_some_iff, Prod.exists] at h
        obtain ⟨es, s₂, hes, h⟩ := h
        obtain ⟨rfl, -⟩ : Value.object (Members.ofList es) = v ∧ s₂ = s' := by simpa using h
        have hmembers : Json.DistinctMembers (Members.ofList es) := by
          refine .ofList fun e he => ?_
          obtain ⟨entry, -, s₃, s₄, hentry⟩ := exists_of_mem_mapM hes e he
          simp only [StateT.run_bind, Option.bind_eq_bind, Option.bind_eq_some_iff, Prod.exists]
            at hentry
          obtain ⟨key, s₅, -, w, s₆, hw, hentry⟩ := hentry
          obtain ⟨rfl, -⟩ : (key, w) = e ∧ s₆ = s₄ := by simpa using hentry
          exact ih entry.2 hw
        exact .object hmembers.1 hmembers.2
    · simp at h

end Yaml

theorem Document.distinct_of_parse? {text : String} {v : Value} (h : Document.parse? text = some v) :
    v.Distinct := by
  unfold Document.parse? at h
  split at h
  · next w hw =>
    obtain rfl := Option.some.inj h
    exact Json.distinct_of_parse hw
  · obtain ⟨d, -, hvalue⟩ := Option.bind_eq_some_iff.mp h
    unfold Yaml.Document.value? at hvalue
    split at hvalue
    · obtain rfl := Option.some.inj hvalue
      exact .null
    · obtain ⟨⟨w, s⟩, hw, rfl⟩ := Option.map_eq_some_iff.mp hvalue
      exact d.distinct_of_nodeValue _ _ hw

end ApiToolbox

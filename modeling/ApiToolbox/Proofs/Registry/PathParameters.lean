import ApiToolbox.Proofs.Json.Grouping
import ApiToolbox.Proofs.Template.Names
import ApiToolbox.Registry

/-! The path parameters of an operation: those that are declared and stand in its path, and behind them one
for each other placeholder. Making them agree once is enough. -/

namespace ApiToolbox.Registry

variable {template : String} {declared ps : List Parameter}

/-! ### A parameter for each placeholder -/

/-- The next placeholder gets a parameter unless it has one. -/
def addMissing (ps : List Parameter) (name : String) : List Parameter :=
  if ps.any (·.name = name) then ps else ps ++ [undeclared name]

theorem reconcile_eq_foldl (template : String) (declared : List Parameter) :
    reconcile template declared = (Template.placeholders template).foldl addMissing
      (declared.filter (·.name ∈ Template.placeholders template)) := rfl

theorem map_name_undeclared (names : List String) :
    (names.map undeclared).map (·.name) = names := by
  rw [List.map_map]
  exact List.map_id' names

theorem addMissing_of_mem {name : String} (h : name ∈ ps.map (·.name)) : addMissing ps name = ps := by
  rw [addMissing, if_pos (by simpa using h)]

theorem addMissing_of_not_mem {name : String} (h : name ∉ ps.map (·.name)) :
    addMissing ps name = ps ++ [undeclared name] := by
  rw [addMissing, if_neg (by simpa using h)]

/-- What is added are the names that no parameter has, in the order in which they first come. The induction
is from the end: a name is there already if a parameter has it or if it was met before. -/
theorem foldl_addMissing (names : List String) (ps : List Parameter) :
    names.foldl addMissing ps =
      ps ++ (names.eraseDups.filter (· ∉ ps.map (·.name))).map undeclared := by
  induction names using List.reverseRecOn with
  | nil => simp
  | append_singleton names n ih =>
    have hthere : n ∈ (ps ++ (names.eraseDups.filter (· ∉ ps.map (·.name))).map undeclared).map (·.name) ↔
        n ∈ ps.map (·.name) ∨ n ∈ names := by
      rw [List.map_append, map_name_undeclared, List.mem_append, List.mem_filter, List.mem_eraseDups]
      by_cases hn : n ∈ ps.map (·.name) <;> simp [hn]
    rw [List.foldl_append, ih, List.foldl_cons, List.foldl_nil, Members.eraseDups_concat]
    by_cases hmet : n ∈ names
    · rw [addMissing_of_mem (hthere.mpr (.inr hmet)), if_pos hmet]
    · rw [if_neg hmet, List.filter_append]
      by_cases hhas : n ∈ ps.map (·.name)
      · rw [addMissing_of_mem (hthere.mpr (.inl hhas)), List.filter_cons_of_neg (by simpa using hhas),
          List.filter_nil, List.append_nil]
      · rw [addMissing_of_not_mem (mt hthere.mp (not_or.mpr ⟨hhas, hmet⟩)),
          List.filter_cons_of_pos (by simpa using hhas), List.filter_nil, List.map_append,
          List.map_singleton, List.append_assoc]

theorem mem_names_filter_iff {names : List String} {n : String} :
    n ∈ (ps.filter (·.name ∈ names)).map (·.name) ↔ n ∈ ps.map (·.name) ∧ n ∈ names := by
  simp only [List.mem_map, List.mem_filter, decide_eq_true_eq]
  constructor
  · rintro ⟨p, ⟨hp, hn⟩, rfl⟩
    exact ⟨⟨p, hp, rfl⟩, hn⟩
  · rintro ⟨⟨p, hp, rfl⟩, hn⟩
    exact ⟨p, ⟨hp, hn⟩, rfl⟩

/-- First the declared parameters that have a placeholder, then one for each placeholder that is not
declared. -/
theorem reconcile_eq_append (template : String) (declared : List Parameter) :
    reconcile template declared =
      declared.filter (·.name ∈ Template.placeholders template) ++
        ((Template.placeholders template).eraseDups.filter (· ∉ declared.map (·.name))).map undeclared := by
  rw [reconcile_eq_foldl, foldl_addMissing]
  congr 2
  refine List.filter_congr fun n hn => ?_
  -- A name that is looked for is a placeholder, so its declared parameters were kept.
  have hplaceholder : n ∈ Template.placeholders template := List.mem_eraseDups.mp hn
  exact decide_eq_decide.mpr (not_congr (mem_names_filter_iff.trans (and_iff_left hplaceholder)))

/-! ### What the path parameters are -/

/-- What holds of declared parameters and of those that are added holds of all. -/
theorem forall_mem_reconcile {P : Parameter → Prop} (hdeclared : ∀ p ∈ declared, P p)
    (hundeclared : ∀ n, P (undeclared n)) : ∀ p ∈ reconcile template declared, P p := by
  intro p hp
  rw [reconcile_eq_append] at hp
  rcases List.mem_append.mp hp with hkept | hadded
  · exact hdeclared p (List.mem_of_mem_filter hkept)
  · obtain ⟨n, -, rfl⟩ := List.mem_map.mp hadded
    exact hundeclared n

/-- The names of the path parameters are the placeholders. -/
theorem mem_names_reconcile_iff (template : String) (declared : List Parameter) (n : String) :
    n ∈ (reconcile template declared).map (·.name) ↔ n ∈ Template.placeholders template := by
  rw [reconcile_eq_append, List.map_append, map_name_undeclared, List.mem_append, mem_names_filter_iff,
    List.mem_filter, List.mem_eraseDups, decide_eq_true_eq]
  constructor
  · rintro (⟨-, hn⟩ | ⟨hn, -⟩)
    · exact hn
    · exact hn
  · intro hn
    by_cases hmem : n ∈ declared.map (·.name)
    · exact .inl ⟨hmem, hn⟩
    · exact .inr ⟨hn, hmem⟩

/-- Parameters that have the names of the placeholders are left as they are. -/
theorem reconcile_eq_self (h : ∀ n, n ∈ ps.map (·.name) ↔ n ∈ Template.placeholders template) :
    reconcile template ps = ps := by
  have hkept : ps.filter (·.name ∈ Template.placeholders template) = ps := by
    rw [List.filter_eq_self]
    exact fun p hp => decide_eq_true ((h p.name).mp (List.mem_map_of_mem hp))
  have hadded : (Template.placeholders template).eraseDups.filter (· ∉ ps.map (·.name)) = [] := by
    rw [List.filter_eq_nil_iff]
    intro n hn
    simpa using (h n).mpr (List.mem_eraseDups.mp hn)
  rw [reconcile_eq_append, hkept, hadded, List.map_nil, List.append_nil]

/-- The path parameters follow the template. Its placeholders are the names that stand in it, each from an
opening brace to the next closing one; none of them is empty. First come the declared parameters of these
names, as they are declared, and then one required text for each name that is not declared, once each, in the
order in which the names first stand in the template. So the parameters have the names of the placeholders and
no others, all of them are required if the declared ones were declared for the path, and making them agree
with the template again changes nothing. -/
theorem reconcile_follows_template (template : String) (declared : List Parameter) :
    let names := Template.placeholders template
    let params := reconcile template declared
    (∀ l, Template.HasNames template.toList l ↔ l = names) ∧ "" ∉ names ∧
      params = declared.filter (·.name ∈ names) ++
        (names.eraseDups.filter (· ∉ declared.map (·.name))).map
          (fun n => ⟨n, .path, true, none, .string, none⟩) ∧
      (∀ n, n ∈ params.map (·.name) ↔ n ∈ names) ∧
      ((∀ p ∈ declared, ∃ name required description type format,
          p = .declare name .path required description type format) →
        ∀ p ∈ params, p.required = true) ∧
      reconcile template params = params := by
  intro names params
  have hnames : ∀ n, n ∈ params.map (·.name) ↔ n ∈ names := mem_names_reconcile_iff template declared
  refine ⟨fun l => Template.hasNames_iff, (Template.hasNames_iff.mpr rfl).ne_empty,
    reconcile_eq_append template declared, hnames, fun hdeclared => ?_, reconcile_eq_self hnames⟩
  refine forall_mem_reconcile (fun p hp => ?_) fun n => Parameter.required_declare_path ..
  obtain ⟨name, required, description, type, format, rfl⟩ := hdeclared p hp
  exact Parameter.required_declare_path ..

/-- Names that come again, a pair of braces with nothing between them, an opening brace inside a name and one
that is never closed. Of the declared parameters one name comes twice, one has no placeholder, and one is
empty. -/
theorem reconcile_follows_template_teams :
    let template := "/\x7bteam\x7d/\x7b\x7d/\x7ba\x7bb\x7d/\x7bteam\x7d/\x7ba\x7bb\x7d/\x7bopen"
    let team : Parameter := .declare "team" .path false none .integer none
    let again : Parameter := .declare "team" .path true (some "Again") .string none
    let stale : Parameter := .declare "stale" .path false none .string none
    let unnamed : Parameter := .declare "" .path false none .string none
    let declared := [team, stale, unnamed, again]
    Template.HasNames template.toList ["team", "a\x7bb", "team", "a\x7bb"] ∧
      (∀ p ∈ declared, ∃ name required description type format,
        p = .declare name .path required description type format) ∧
      reconcile template declared =
        [team, again, ⟨"a\x7bb", .path, true, none, .string, none⟩] ∧
      (∀ p ∈ reconcile template declared, p.required = true) ∧
      reconcile template (reconcile template declared) = reconcile template declared := by
  intro template team again stale unnamed declared
  have hdeclared : ∀ p ∈ declared, ∃ name required description type format,
      p = .declare name .path required description type format := by
    simp only [declared, List.forall_mem_cons]
    exact ⟨⟨_, _, _, _, _, rfl⟩, ⟨_, _, _, _, _, rfl⟩, ⟨_, _, _, _, _, rfl⟩, ⟨_, _, _, _, _, rfl⟩,
      List.forall_mem_nil _⟩
  have hnames : ["team", "a\x7bb", "team", "a\x7bb"] = Template.placeholders template := by
    decide +kernel
  obtain ⟨hread, -, hparams, -, hrequired, hself⟩ := reconcile_follows_template template declared
  refine ⟨(hread _).mpr hnames, hdeclared, hparams.trans ?_, hrequired hdeclared, hself⟩
  rw [← hnames]
  decide

end ApiToolbox.Registry

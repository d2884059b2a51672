import ApiToolbox.Proofs.Index.Rules
import ApiToolbox.Proofs.Json.Equality
import ApiToolbox.Proofs.Registry.Content
import ApiToolbox.Toolbox

/-! What a registry has of an index: each operation that is found by the rules and that the choice
allows, once, and nothing else. -/

namespace ApiToolbox

open Json (Value)

namespace Registry

variable {load : Index.Load} {docs : List PathDocument} {l : Library} {d : Discovery}

/-- A registry holds what a load finds and a choice allows: one operation for each such path and method
and none for any other, with the query parameters that the path shares in front of its own, and with a
body where one is found. -/
structure Holds (r : Registry) (load : Index.Load) (d : Discovery) : Prop where
  once : ∀ path method e b, load.Finds path method e b → d.allows method.name path →
    ∃ op, r.operations.filter (fun op => op.path = path ∧ op.method = method) = [op] ∧
      op.queryParams = (e.shared ++ b.own).filter (·.location = .query) ∧
      (op.body.isSome ↔ b.body.isSome)
  only : ∀ op ∈ r.operations,
    d.allows op.method.name op.path ∧ ∃ e b, load.Finds op.path op.method e b

theorem holds_build (hkeys : load.entries.keys.Nodup) (hdocs : Index.InTurn
      (Index.HasDocument load.source.tree load.doc) load.library load.entries (docs, l)) :
    (build docs d).Holds load d where
  once path method e b hfinds hallowed := by
    obtain ⟨operations, hdoc, hdecl⟩ := hfinds.filter_eq hkeys hdocs
    obtain ⟨op, hop, heq⟩ := exists_filter_build hallowed hdoc hdecl
    refine ⟨op, hop, ?_, ?_⟩
    · rw [heq, queryParams_operation]
      rfl
    · rw [heq]
      simp [operation, Index.Block.decl]
  only op hop := by
    obtain ⟨doc, decl, hmem, heq⟩ := exists_operation_of_mem_build hop
    obtain ⟨hlisted, hallowed⟩ := List.mem_filter.mp hmem
    obtain ⟨doc', hdoc, hpair⟩ := List.mem_flatMap.mp hlisted
    obtain ⟨decl', hdecl, hsame⟩ := List.mem_map.mp hpair
    obtain ⟨rfl, rfl⟩ := Prod.mk.inj hsame
    rw [heq]
    exact ⟨hallowed, Index.Load.exists_finds hkeys hdocs hdoc hdecl⟩

end Registry

namespace Toolbox

/-- Of an index that can be read, a registry holds every operation that is found under a path and a
method and that the choice allows, once, and no other. Only a digest that the settings insist on keeps
the index from being read. -/
theorem holds_of_readIndex {s : Settings} {t : FileTree} {text : String} {index : Value}
    {entries : Members Value} (htext : t.read s.index = .ok text)
    (hindex : Document.parse? text = some index) (hentries : Index.entries? index = some entries) :
    ((∃ docs, readIndex s t = .ok docs) ↔ ∀ expected, s.digest = some expected →
      s.digestPolicy = .fail → Index.hasDigest text expected) ∧
    ∀ docs, readIndex s t = .ok docs → ∀ d,
      (Registry.build docs d).Holds (.start t s.index index entries) d := by
  have hdocs := Index.ofText_eq t s.index hindex hentries
  have hkeys := Index.nodup_keys_of_entries? hindex hentries
  obtain ⟨l, hrules⟩ := Index.inTurn_documents_start t s.index hentries
  simp only [readIndex, htext, hdocs]
  constructor
  · cases s.digest with
    | none => simp
    | some expected =>
      by_cases hpinned : s.digestPolicy = .fail
      · by_cases hdigest : Index.hasDigest text expected
        · simp [hdigest]
        · simp [hpinned, hdigest]
      · simp [hpinned]
  · intro docs hread d
    have hsame : (Index.Load.start t s.index index entries).documents = docs := by
      split at hread
      · split at hread
        · cases hread
        · exact Except.ok.inj hread
      · exact Except.ok.inj hread
    rw [← hsame]
    exact Registry.holds_build hkeys hrules

/-- An index with a path whose file is not there, and one with parameters that are listed twice, for the
path and for its method, and with a body. -/
theorem holds_of_readIndex_users :
    let text := "paths: {/gone: {$ref: gone}, /users: {$ref: users}}\n"
    let file (name content : String) : List String × FileEntry :=
      ([name], .file (Text.Utf8.encode content.toList))
    let t : FileTree := ⟨[file "index" text,
      file "users" "parameters: [{$ref: page}, {$ref: page}]\npost: {$ref: post}\n",
      file "post" "parameters: [{$ref: gone}, {$ref: page}, {$ref: all}]\nrequestBody: {}\n",
      file "page" "{name: page, in: query}\n",
      file "all" "{name: all, in: query, required: true}\n"], []⟩
    let s : Settings := { index := "/index" }
    let index := (Document.parse? text).getD .null
    let entries := (Index.entries? index).getD []
    let page : Parameter := ⟨"page", .query, false, none, .string, none⟩
    let all : Parameter := ⟨"all", .query, true, none, .string, none⟩
    t.read s.index = .ok text ∧ Document.parse? text = some index ∧
      Index.entries? index = some entries ∧ entries.keys = ["/gone", "/users"] ∧
      ∃ docs, readIndex s t = .ok docs ∧
        (∃ op, (Registry.build docs (.all true)).operations.filter
            (fun op => op.path = "/users" ∧ op.method = .post) = [op] ∧
          op.queryParams = [page, page, page, all] ∧ op.body.isSome) ∧
        ∀ op ∈ (Registry.build docs (.all true)).operations,
          ¬ (op.path = "/gone" ∧ op.method = .post) := by
  intro text file t s index entries page all
  have htext : t.read s.index = .ok text := by decide +kernel
  have hindex : Document.parse? text = some index :=
    (Option.getD_of_ne_none (Option.isSome_iff_ne_none.mp (by decide +kernel)) _).symm
  have hentries : Index.entries? index = some entries :=
    (Option.getD_of_ne_none (Option.isSome_iff_ne_none.mp (by decide +kernel)) _).symm
  have hkeys : entries.keys = ["/gone", "/users"] := by decide +kernel
  obtain ⟨hread, hholds⟩ := holds_of_readIndex htext hindex hentries
  obtain ⟨docs, hdocs⟩ := hread.mpr (by simp [s])
  obtain ⟨honce, honly⟩ := hholds docs hdocs (.all true)
  set load := Index.Load.start t s.index index entries
  have hcomputed : (load.find? "/users" .post).map (fun (e, b) =>
      ((e.shared ++ b.own).filter (·.location = .query), b.body.isSome)) =
        some ([page, page, page, all], true) ∧ (load.find? "/gone" .post).isNone := by
    decide +kernel
  obtain ⟨husers, hgone⟩ := hcomputed
  refine ⟨htext, hindex, hentries, hkeys, docs, hdocs, ?_, ?_⟩
  · obtain ⟨⟨e, b⟩, hfind, hfound⟩ := Option.map_eq_some_iff.mp husers
    obtain ⟨hparams, hbody⟩ := Prod.mk.inj hfound
    obtain ⟨op, hop, hquery, htakes⟩ := honce _ _ e b (Index.Load.finds_iff.mpr hfind) rfl
    exact ⟨op, hop, hquery.trans hparams, htakes.mpr hbody⟩
  · rintro op hop ⟨hpath, hmethod⟩
    obtain ⟨e, b, hfinds⟩ := (honly op hop).2
    rw [hpath, hmethod, Index.Load.finds_iff] at hfinds
    simp [hfinds] at hgone

end Toolbox
end ApiToolbox

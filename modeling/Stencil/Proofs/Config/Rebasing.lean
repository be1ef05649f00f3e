import Stencil.Proofs.Config.Dirs

namespace Stencil

namespace Path

variable {base p : Path}

theorem join_absolute (absolute : p.isAbsolute = true) : base.join p = p :=
  if_pos absolute

theorem join_nil (base : Path) :
    base.join [] = if base = [] ∨ base.getLast? = some slash then base else base ++ [slash] := by
  cases base <;> simp [join, isAbsolute]

theorem join_nil_eq_nil_iff : base.join [] = [] ↔ base = [] := by
  rw [join_nil]
  split
  · rfl
  · rename_i open_
    simp [mt Or.inl open_]

theorem getLast?_join_nil (filled : base ≠ []) : (base.join []).getLast? = some slash := by
  rw [join_nil]
  split
  · rename_i ended
    exact ended.resolve_left filled
  · exact List.getLast?_concat

theorem fileName?_of_extension? {name : OsText} (named : p.extension? = some name) :
    ∃ segment, p.fileName? = some segment := by
  unfold extension? at named
  cases found : p.fileName? with
  | none => simp [found] at named
  | some segment => exact ⟨segment, rfl⟩

theorem parent?_of_fileName? {segment : OsText} (named : p.fileName? = some segment) :
    ∃ base, p.parent? = some base := by
  unfold fileName? at named
  unfold parent?
  cases body : trimIdle p.bodyOf with
  | nil => simp [body] at named
  | cons first others => exact ⟨_, rfl⟩

end Path

namespace Config

open File (Tree)

variable {files : Tree} {env : Environment} {path base : Path} {raw : Layer} {dirs : List String}
  {dir : String}

def rebased (base : Path) (dir : String) : Path :=
  let own := Path.ofString dir
  if own.isAbsolute then own else base.join own

/-- What an entry comes to. An empty one is dropped only if there is nothing to join it to. -/
def contribution (base : Path) (dir : String) : Option Path :=
  if dir.isEmpty && base.isEmpty then none else some (rebased base dir)

theorem rebased_eq (base : Path) (dir : String) : rebased base dir = base.join (Path.ofString dir) := by
  unfold rebased
  dsimp only
  split
  · rename_i absolute
    exact (Path.join_absolute absolute).symm
  · rfl

theorem ofString_eq_nil_iff : Path.ofString dir = [] ↔ dir = "" := by
  simp [Path.ofString, OsText.ofString]

theorem rebased_eq_nil_iff : rebased base dir = [] ↔ dir = "" ∧ base = [] := by
  rw [rebased_eq]
  by_cases empty : dir = ""
  · subst empty
    exact Path.join_nil_eq_nil_iff.trans (and_iff_right rfl).symm
  · have joined : base.join (Path.ofString dir) ≠ [] :=
      Path.join_ne_nil (mt ofString_eq_nil_iff.mp empty) base
    simp [empty, joined]

theorem Says.parent (stated : Says files (some path) raw) :
    ∃ base, path.parent? = some base := by
  have named : ∃ name, path.extension? = some name := by
    cases found : path.extension? with
    | some name => exact ⟨name, rfl⟩
    | none =>
      have bare : extension path = "" := by simp [extension, found, Text.lowerAscii]
      cases stated with
      | yaml _ _ kind _ => simp [bare] at kind
      | json _ _ kind _ => simp [bare] at kind
  obtain ⟨name, named⟩ := named
  obtain ⟨segment, named⟩ := Path.fileName?_of_extension? named
  exact Path.parent?_of_fileName? named

theorem filter_rebased (base : Path) (dirs : List String) :
    (dirs.map (rebased base)).filter (!·.isEmpty) = dirs.filterMap (contribution base) := by
  induction dirs with
  | nil => rfl
  | cons dir dirs ih =>
    by_cases lost : rebased base dir = []
    · obtain ⟨rfl, rfl⟩ := rebased_eq_nil_iff.mp lost
      exact ih
    · have kept : contribution base dir = some (rebased base dir) :=
        if_neg (by simpa using mt rebased_eq_nil_iff.mpr lost)
      have filled : (rebased base dir).isEmpty = false := by simpa using lost
      rw [List.map_cons, List.filterMap_cons_some kept, ← ih, List.filter_cons, filled]
      rfl

theorem filterMap_contribution (harmless : base = [] ∨ "" ∉ dirs) :
    dirs.filterMap (contribution base) = (dirs.filter (· ≠ "")).map (rebased base) := by
  induction dirs with
  | nil => rfl
  | cons dir dirs ih =>
    have rest := ih (harmless.imp_right (mt (List.mem_cons_of_mem dir)))
    by_cases empty : dir = ""
    · subst empty
      obtain rfl := harmless.resolve_right (not_not_intro List.mem_cons_self)
      simpa [contribution] using rest
    · simp [contribution, empty, rest]

theorem filterMap_contribution_all (filled : base ≠ []) :
    dirs.filterMap (contribution base) = dirs.map (rebased base) := by
  induction dirs with
  | nil => rfl
  | cons dir dirs ih => simp [contribution, filled, ih]

theorem rebased_empty_ne_default (filled : base ≠ []) :
    [rebased base ""] ≠ default.templateDirs := by
  intro same
  have ended := Path.getLast?_join_nil filled
  have alike : rebased base "" = Path.ofString "templates" := List.head_eq_of_cons_eq same
  rw [rebased_eq] at alike
  have clash : (Path.ofString "templates").getLast? = some Path.slash := alike ▸ ended
  revert clash
  decide

theorem firstOf_contribution_ne (filled : base ≠ []) (member : "" ∈ dirs) :
    firstOf [dirs.filterMap (contribution base)] ≠
      firstOf [(dirs.filter (· ≠ "")).map (rebased base)] := by
  intro same
  have some : dirs.map (rebased base) ≠ [] := List.ne_nil_of_mem (List.mem_map_of_mem member)
  rw [filterMap_contribution_all filled, firstOf_cons some] at same
  have fewer : (dirs.filter (· ≠ "")).length < dirs.length :=
    List.length_filter_lt_length_iff_exists.mpr ⟨"", member, by simp⟩
  by_cases none : (dirs.filter (· ≠ "")).map (rebased base) = []
  · rw [none] at same
    obtain ⟨dir, rfl⟩ : ∃ dir, dirs = [dir] := by
      have single := congrArg List.length same
      rw [List.length_map] at single
      exact List.length_eq_one_iff.mp single
    obtain rfl := List.mem_singleton.mp member
    exact rebased_empty_ne_default filled same
  · rw [firstOf_cons none] at same
    have long := congrArg List.length same
    simp only [List.length_map] at long
    omega

/-- Every entry of a config file contributes what it comes to, in order, and without any the default
counts. That is each entry but the empty ones, seen from the directory of the file, exactly if the
file lies in the empty path or lists no empty entry. -/
theorem load_rebased (stated : Says files (some path) raw)
    (listed : raw.templateDirs = some (dirs.map Path.ofString))
    (unset : env Layer.dirsVariable = none) (obeyed : Obeyed env) :
    ∃ base c, path.parent? = some base ∧ load files env (some path) = .ok c ∧
      c.templateDirs = firstOf [dirs.filterMap (contribution base)] ∧
      (c.templateDirs = firstOf [(dirs.filter (· ≠ "")).map (rebased base)] ↔
        base = [] ∨ "" ∉ dirs) := by
  obtain ⟨base, lies⟩ := stated.parent
  obtain ⟨layer, told, own⟩ := ofEnvironment_obeyed obeyed
  have seen : (raw.templateDirs.getD []).map (fromFile (some path)) = dirs.map (rebased base) := by
    have same : fromFile (some path) ∘ Path.ofString = rebased base := by
      funext dir
      simp [fromFile, lies, rebased_eq]
    rw [listed, Option.getD_some, List.map_map, same]
  have unsetToo : env Layer.dirsVariable = (none : Option (List UInt8)).map OsText.ofBytes := unset
  have counted : (ofLayers layer (seenFrom (some path) raw)).templateDirs = _ :=
    dirs_of_layers own unsetToo
  rw [seen, filter_rebased, if_pos (Option.getD_none ..)] at counted
  refine ⟨base, _, lies, load_eq stated told, counted, ?_⟩
  rw [counted]
  constructor
  · intro same
    by_cases bare : base = []
    · exact .inl bare
    · exact .inr fun member => firstOf_contribution_ne bare member same
  · intro harmless
    rw [filterMap_contribution harmless]

def nested : Tree :=
  let text := "\x7b\"template_dirs\":[\"\",\"d\",\"/e\"]\x7d"
  ⟨.dir [(Path.ofString "conf", .dir [(Path.ofString "c.json", .file text.toUTF8)])], []⟩

theorem says_of_nested :
    Says nested (some (Path.ofString "conf/c.json"))
      ⟨some (["", "d", "/e"].map Path.ofString), none⟩ := by
  have parsed : Layer.Json.parse "\x7b\"template_dirs\":[\"\",\"d\",\"/e\"]\x7d" =
      .ok ⟨some (["", "d", "/e"].map Path.ofString), none⟩ :=
    eq_ok_of_toOption (by decide +kernel)
  exact .json rfl rfl (by decide +kernel) parsed

theorem obeyed_empty : Obeyed Environment.empty :=
  nofun

theorem load_rebased_nested :
    ∃ c, load nested Environment.empty (some (Path.ofString "conf/c.json")) = .ok c ∧
      c.templateDirs = ["conf/", "conf/d", "/e"].map Path.ofString := by
  obtain ⟨base, c, lies, loaded, dirs, -⟩ := load_rebased says_of_nested rfl rfl obeyed_empty
  obtain rfl : Path.ofString "conf" = base := by
    have found : (Path.ofString "conf/c.json").parent? = some (Path.ofString "conf") := by
      decide +kernel
    exact Option.some.inj (found.symm.trans lies)
  refine ⟨c, loaded, dirs.trans ?_⟩
  decide +kernel

theorem empty_entry_kept :
    ¬∀ (files : Tree) (env : Environment) (path base : Path) (raw : Layer) (dirs : List String),
      Says files (some path) raw → raw.templateDirs = some (dirs.map Path.ofString) →
      env Layer.dirsVariable = none → Obeyed env → path.parent? = some base →
      ∃ c, load files env (some path) = .ok c ∧
        c.templateDirs = firstOf [(dirs.filter (· ≠ "")).map (rebased base)] := by
  intro all
  obtain ⟨c, loaded, dirs⟩ := all nested Environment.empty (Path.ofString "conf/c.json")
    (Path.ofString "conf") _ _ says_of_nested rfl rfl obeyed_empty (by decide +kernel)
  have kept : load nested Environment.empty (some (Path.ofString "conf/c.json")) =
      .ok ⟨["conf/", "conf/d", "/e"].map Path.ofString, false⟩ :=
    eq_ok_of_toOption (by decide +kernel)
  rw [kept] at loaded
  cases loaded
  revert dirs
  decide +kernel

end Config

end Stencil

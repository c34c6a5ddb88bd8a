import Mathlib.Tactic
import ServerKeeper.Toolchain.Invocation

namespace ServerKeeper.Toolchain

namespace Environment

def keys (env : Environment) : List String :=
  env.bindings.map Prod.fst

def setAll (env : Environment) (changes : List (String × String)) : Environment :=
  changes.foldl (fun env change => env.set change.1 change.2) env

def added (env : Environment) (changes : List (String × String)) : List String :=
  (changes.map Prod.fst).eraseDups.filter (· ∉ env.keys)

section Bindings

variable {key other value text : String} {bindings : List (String × String)}

theorem lookup_cons (asked : String) :
    ((key, value) :: bindings).lookup asked =
      if asked = key then some value else bindings.lookup asked := by
  rw [List.lookup_cons]
  by_cases same : asked = key
  · simp [same]
  · simp [same, beq_false_of_ne same]

theorem map_fst_setIn (key value : String) (bindings : List (String × String)) :
    (setIn key value bindings).map Prod.fst =
      if key ∈ bindings.map Prod.fst then bindings.map Prod.fst
      else bindings.map Prod.fst ++ [key] := by
  induction bindings with
  | nil => rfl
  | cons binding bindings ih =>
    obtain ⟨first, text⟩ := binding
    by_cases same : first = key
    · subst same
      simp [setIn]
    · have later : key ∈ first :: bindings.map Prod.fst ↔ key ∈ bindings.map Prod.fst := by
        rw [List.mem_cons, or_iff_right (Ne.symm same)]
      rw [setIn, if_neg same, List.map_cons, ih, List.map_cons, apply_ite (first :: ·)]
      simp only [later, List.cons_append]

theorem lookup_setIn (key value asked : String) (bindings : List (String × String)) :
    (setIn key value bindings).lookup asked =
      if asked = key then some value else bindings.lookup asked := by
  induction bindings with
  | nil => exact lookup_cons asked
  | cons binding bindings ih =>
    obtain ⟨first, text⟩ := binding
    by_cases same : first = key
    · subst same
      rw [setIn, if_pos rfl, lookup_cons, lookup_cons]
      split <;> rfl
    · rw [setIn, if_neg same, lookup_cons, ih, lookup_cons]
      by_cases here : asked = first
      · rw [if_pos here, if_neg (here ▸ same), if_pos here]
      · rw [if_neg here, if_neg here]

theorem setIn_comm (different : key ≠ other) (present : key ∈ bindings.map Prod.fst)
    (present' : other ∈ bindings.map Prod.fst) :
    setIn other text (setIn key value bindings) = setIn key value (setIn other text bindings) := by
  induction bindings with
  | nil => cases present
  | cons binding bindings ih =>
    obtain ⟨first, old⟩ := binding
    by_cases same : first = key
    · subst same
      simp [setIn, different]
    · by_cases same' : first = other
      · subst same'
        simp [setIn, same]
      · have later := List.mem_of_ne_of_mem (Ne.symm same) present
        have later' := List.mem_of_ne_of_mem (Ne.symm same') present'
        simp [setIn, same, same', ih later later']

end Bindings

variable {env start : Environment} {key other value text : String}
  {changes : List (String × String)}

theorem keys_set (env : Environment) (key value : String) :
    (env.set key value).keys = if key ∈ env.keys then env.keys else env.keys ++ [key] :=
  map_fst_setIn key value env.bindings

theorem get?_set (env : Environment) (key value asked : String) :
    (env.set key value).get? asked = if asked = key then some value else env.get? asked :=
  lookup_setIn key value asked env.bindings

theorem get?_eq_some_iff (distinct : env.keys.Nodup) :
    env.get? key = some value ↔ (key, value) ∈ env.bindings := by
  rw [get?, List.lookup_eq_some_iff]
  constructor
  · rintro ⟨front, back, whole, -⟩
    simp [whole]
  · intro member
    obtain ⟨front, back, whole⟩ := List.append_of_mem member
    -- a binding of the same variable further in front would hide this one
    refine ⟨front, back, whole, fun binding earlier => bne_iff_ne.mpr ?_⟩
    rw [keys, whole, List.map_append] at distinct
    exact ((List.nodup_append.mp distinct).2.2 binding.1 (List.mem_map_of_mem earlier) key
      List.mem_cons_self).symm

/-- Variables that are there keep their places, so it does not matter which of two is set first. -/
theorem set_comm (different : key ≠ other) (present : key ∈ env.keys) (present' : other ∈ env.keys) :
    (env.set key value).set other text = (env.set other text).set key value :=
  congrArg Environment.mk (setIn_comm different present present')

theorem nodup_keys_set (distinct : env.keys.Nodup) (key value : String) :
    (env.set key value).keys.Nodup := by
  rw [keys_set]
  split
  · exact distinct
  · rename_i absent
    rw [← List.concat_eq_append]
    exact (List.nodup_concat _ _).mpr ⟨absent, distinct⟩

theorem setAll_cons (env : Environment) (key value : String) (changes : List (String × String)) :
    env.setAll ((key, value) :: changes) = (env.set key value).setAll changes := rfl

theorem setAll_append (env : Environment) (changes more : List (String × String)) :
    env.setAll (changes ++ more) = (env.setAll changes).setAll more :=
  List.foldl_append

theorem nodup_keys_setAll (distinct : env.keys.Nodup) (changes : List (String × String)) :
    (env.setAll changes).keys.Nodup := by
  induction changes generalizing env with
  | nil => exact distinct
  | cons change changes ih => exact ih (nodup_keys_set distinct change.1 change.2)

theorem get?_setAll_of_notMem (env : Environment) (unset : key ∉ changes.map Prod.fst) :
    (env.setAll changes).get? key = env.get? key := by
  induction changes generalizing env with
  | nil => rfl
  | cons change changes ih =>
    obtain ⟨here, later⟩ := not_or.mp (mt List.mem_cons.mpr unset)
    rw [setAll_cons, ih _ later, get?_set, if_neg here]

theorem get?_setAll_last (env : Environment) (before : List (String × String)) {after}
    (last : key ∉ after.map Prod.fst) :
    (env.setAll (before ++ (key, value) :: after)).get? key = some value := by
  rw [setAll_append, setAll_cons, get?_setAll_of_notMem _ last, get?_set, if_pos rfl]

theorem added_concat (env : Environment) (changes : List (String × String)) (key value : String) :
    env.added (changes ++ [(key, value)]) =
      if key ∈ env.keys ∨ key ∈ changes.map Prod.fst then env.added changes
      else env.added changes ++ [key] := by
  rw [added, List.map_append, List.eraseDups_append, List.filter_append]
  by_cases before : key ∈ changes.map Prod.fst
  · have none : [key].removeAll (changes.map Prod.fst) = [] := by simp [List.removeAll, before]
    rw [List.map_singleton, none, if_pos (.inr before)]
    exact List.append_nil _
  · have new : [key].removeAll (changes.map Prod.fst) = [key] := by simp [List.removeAll, before]
    rw [List.map_singleton, new]
    by_cases present : key ∈ env.keys
    · rw [if_pos (.inl present)]
      simp [List.eraseDups_cons, present, added]
    · rw [if_neg (not_or.mpr ⟨present, before⟩)]
      simp [List.eraseDups_cons, present, added]

theorem keys_setAll (env : Environment) (changes : List (String × String)) :
    (env.setAll changes).keys = env.keys ++ env.added changes := by
  -- from the right, since whether a change brings its variable in lies with the changes before it
  induction changes using List.reverseRecOn with
  | nil => simp [setAll, added]
  | append_singleton changes change ih =>
    obtain ⟨key, value⟩ := change
    have known : key ∈ env.keys ++ env.added changes ↔
        key ∈ env.keys ∨ key ∈ changes.map Prod.fst := by
      simp only [added, List.mem_append, List.mem_filter, List.mem_eraseDups, decide_eq_true_eq]
      tauto
    rw [setAll_append, setAll_cons, added_concat, apply_ite (env.keys ++ ·)]
    change ((env.setAll changes).set key value).keys = _
    simp only [keys_set, ih, known, List.append_assoc]

theorem getElem?_setAll (distinct : start.keys.Nodup) {i : Nat}
    (stood : start.bindings[i]? = some (key, value)) :
    ∃ current, (start.setAll changes).bindings[i]? = some (key, current) ∧
      (key ∉ changes.map Prod.fst → current = value) := by
  have first : start.keys[i]? = some key := by rw [keys, List.getElem?_map, stood]; rfl
  have still : (start.setAll changes).keys[i]? = some key := by
    obtain ⟨inside, -⟩ := List.getElem?_eq_some_iff.mp first
    rw [keys_setAll, List.getElem?_append_left inside, first]
  rw [keys, List.getElem?_map, Option.map_eq_some_iff] at still
  obtain ⟨⟨_, current⟩, stands, rfl⟩ := still
  refine ⟨current, stands, fun unset => ?_⟩
  have now : (start.setAll changes).get? _ = some current :=
    (get?_eq_some_iff (nodup_keys_setAll distinct changes)).mpr (List.mem_of_getElem? stands)
  have before := (get?_eq_some_iff distinct).mpr (List.mem_of_getElem? stood)
  rw [get?_setAll_of_notMem start unset, before] at now
  exact (Option.some.inj now).symm

/-- Variables that were set one after the other, beside those from which this started. -/
structure Ordered (start : Environment) (changes : List (String × String)) (env : Environment) :
    Prop where
  distinct : env.keys.Nodup
  last : ∀ before key value after, changes = before ++ (key, value) :: after →
    key ∉ after.map Prod.fst → env.get? key = some value
  unset : ∀ key, key ∉ changes.map Prod.fst → env.get? key = start.get? key
  entry : ∀ key value, env.get? key = some value ↔ (key, value) ∈ env.bindings
  order : env.keys = start.keys ++ start.added changes
  place : ∀ (i : Nat) (key value : String), start.bindings[i]? = some (key, value) →
    ∃ current, env.bindings[i]? = some (key, current) ∧
      (key ∉ changes.map Prod.fst → current = value)

theorem ordered_setAll (distinct : start.keys.Nodup) (changes : List (String × String)) :
    Ordered start changes (start.setAll changes) where
  distinct := nodup_keys_setAll distinct changes
  last := by
    rintro before key value after rfl last
    exact get?_setAll_last start before last
  unset := fun _ unset => get?_setAll_of_notMem start unset
  entry := fun _ _ => get?_eq_some_iff (nodup_keys_setAll distinct changes)
  order := keys_setAll start changes
  place := fun _ _ _ stood => getElem?_setAll distinct stood

theorem nodup_keys_ofBaseDir (base : String) : (ofBaseDir base).keys.Nodup := by
  have names : (ofBaseDir base).keys = ["GO111MODULE", "GOPATH", "GOBIN", "GOCACHE", "GOMODCACHE"] :=
    rfl
  rw [names]
  decide

/-- The variables are an ordered map, from whatever base directory or from none: each is there once
and has the value that it was given last, those from the start keep their places, and the others come
behind them as they were first set. Which of two that are there is set first makes no difference. -/
theorem setAll_exact :
    (∀ start : Environment, start = empty ∨ (∃ base, start = ofBaseDir base) →
      ∀ changes, Ordered start changes (start.setAll changes)) ∧
    ∀ (env : Environment) (key other value text : String), key ≠ other → key ∈ env.keys →
      other ∈ env.keys → (env.set key value).set other text = (env.set other text).set key value := by
  refine ⟨fun start begins changes => ordered_setAll ?_ changes,
    fun env key other value text different present present' => ?_⟩
  · rcases begins with rfl | ⟨base, rfl⟩
    · exact List.nodup_nil
    · exact nodup_keys_ofBaseDir base
  · exact set_comm different present present'

theorem setAll_exact_overridden :
    let changes := [("GOTMPDIR", "/a"), ("GOPATH", "/own"), ("GOTMPDIR", "/b")]
    let env := (ofBaseDir "store").setAll changes
    env.get? "GOTMPDIR" = some "/b" ∧ env.get? "GOCACHE" = (ofBaseDir "store").get? "GOCACHE" ∧
      ("GOPATH", "/own") ∈ env.bindings ∧
      (∃ current, env.bindings[1]? = some ("GOPATH", current)) ∧
      (env.set "GOPATH" "/x").set "GOTMPDIR" "/y" = (env.set "GOTMPDIR" "/y").set "GOPATH" "/x" := by
  intro changes env
  have ordered : Ordered (ofBaseDir "store") changes env :=
    setAll_exact.1 _ (.inr ⟨"store", rfl⟩) changes
  refine ⟨?_, ?_, ?_, ?_, ?_⟩
  · exact ordered.last (changes.take 2) _ _ [] rfl (by decide)
  · exact ordered.unset _ (by decide)
  · exact (ordered.entry _ _).mp (ordered.last (changes.take 1) _ _ (changes.drop 2) rfl (by decide))
  · obtain ⟨current, stands, -⟩ := ordered.place 1 "GOPATH" _ rfl
    exact ⟨current, stands⟩
  · exact setAll_exact.2 env _ _ _ _ (by decide) (by decide) (by decide)

end Environment

theorem nodup_bindings (baseDir : String) (scratch : Scratch) :
    ((bindings baseDir scratch).map Prod.fst).Nodup :=
  Environment.nodup_keys_set (Environment.nodup_keys_ofBaseDir baseDir) "GOTMPDIR" scratch.text

end ServerKeeper.Toolchain

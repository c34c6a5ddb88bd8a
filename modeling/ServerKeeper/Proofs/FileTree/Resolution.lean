import ServerKeeper.FileTree.Access
import ServerKeeper.Proofs.Path

namespace ServerKeeper.FileTree

/-- A name that stands for an entry and that a file system can hold. -/
structure IsName (name : String) : Prop where
  filled : name ≠ ""
  noDot : name ≠ "."
  noDots : name ≠ ".."
  fits : name.utf8ByteSize ≤ maxName

theorem isName_of_isPlain {name : String} (plain : Path.IsPlain name)
    (fits : name.utf8ByteSize ≤ maxName) : IsName name :=
  ⟨plain.1, plain.2.2.1, plain.2.2.2, fits⟩

def AtEnd (names : List String) : Prop :=
  names = [] ∨ names = [""]

inductive Leads (t : FileTree) (followLast : Bool) : Nat → Location → List String → Place → Prop
  | stay {links here e} : t.find? here = some e →
      Leads t followLast links here [] ⟨here, some e, false⟩
  | skip {links here name rest p} : name = "" ∨ name = "." → Leads t followLast links here rest p →
      Leads t followLast links here (name :: rest) p
  | up {links here rest p} : Leads t followLast links here.dropLast rest p →
      Leads t followLast links here (".." :: rest) p
  | vacant {links here name rest} : IsName name → t.find? (here ++ [name]) = none → AtEnd rest →
      Leads t followLast links here (name :: rest) ⟨here ++ [name], none, rest ≠ []⟩
  | file {links here name rest content mode} : IsName name →
      t.find? (here ++ [name]) = some (.file content mode) → AtEnd rest →
      Leads t followLast links here (name :: rest)
        ⟨here ++ [name], some (.file content mode), rest ≠ []⟩
  | into {links here name rest mode p} : IsName name →
      t.find? (here ++ [name]) = some (.directory mode) →
      Leads t followLast links (here ++ [name]) rest p →
      Leads t followLast links here (name :: rest) p
  | lastLink {links here name target} : IsName name → followLast = false →
      t.find? (here ++ [name]) = some (.link target) →
      Leads t followLast links here [name] ⟨here ++ [name], some (.link target), false⟩
  | link {links here name rest target p} : IsName name → rest ≠ [] ∨ followLast = true →
      t.find? (here ++ [name]) = some (.link target) → target ≠ "" →
      Leads t followLast links (linkStart here target) (linkSteps target rest) p →
      Leads t followLast (links + 1) here (name :: rest) p

theorem follow_of_isName {name : String} (isName : IsName name) (t : FileTree) (followLast : Bool)
    (onLink : Location → List String → Except FileFault Place) (here : Location)
    (rest : List String) :
    follow t followLast onLink here (name :: rest) =
      match t.find? (here ++ [name]) with
      | none =>
        if rest = [] ∨ rest = [""] then .ok ⟨here ++ [name], none, rest ≠ []⟩ else .error .notFound
      | some (.directory _) => follow t followLast onLink (here ++ [name]) rest
      | some (.link target) =>
        if rest = [] ∧ followLast = false then .ok ⟨here ++ [name], some (.link target), false⟩
        else if target = "" then .error .notFound
        else onLink (linkStart here target) (linkSteps target rest)
      | some (.file content mode) =>
        if rest = [] ∨ rest = [""] then .ok ⟨here ++ [name], some (.file content mode), rest ≠ []⟩
        else .error .notADirectory := by
  have moves : ¬(name = "" ∨ name = ".") := by simp [isName.filled, isName.noDot]
  rw [follow, if_neg moves, if_neg isName.noDots]
  exact if_neg (Nat.not_lt.mpr isName.fits)

def linked (t : FileTree) (followLast : Bool) :
    Nat → Location → List String → Except FileFault Place
  | 0 => fun _ _ => .error .tooManyLinks
  | links + 1 => walk t followLast links

theorem walk_eq_follow (t : FileTree) (followLast : Bool) (links : Nat) :
    walk t followLast links = follow t followLast (linked t followLast links) := by
  cases links <;> rfl

theorem walk_of_leads {t : FileTree} {followLast : Bool} {links : Nat} {here : Location}
    {names : List String} {p : Place} (leads : Leads t followLast links here names p) :
    walk t followLast links here names = .ok p := by
  induction leads with
  | stay found => simp [walk_eq_follow, follow, found]
  | skip stays _ ih =>
    rw [walk_eq_follow, follow, if_pos stays, ← walk_eq_follow]
    exact ih
  | up _ ih =>
    rw [walk_eq_follow, follow, if_neg (by decide), if_pos rfl, ← walk_eq_follow]
    exact ih
  | vacant isName found last =>
    rw [walk_eq_follow, follow_of_isName isName, found]
    exact if_pos last
  | file isName found last =>
    rw [walk_eq_follow, follow_of_isName isName, found]
    exact if_pos last
  | into isName found _ ih =>
    rw [walk_eq_follow, follow_of_isName isName, found]
    simpa only [walk_eq_follow] using ih
  | lastLink isName meant found =>
    rw [walk_eq_follow, follow_of_isName isName, found]
    exact if_pos ⟨rfl, meant⟩
  | link isName followed found filled _ ih =>
    rw [walk_eq_follow, follow_of_isName isName, found]
    have notLast : ¬(_ ∧ followLast = false) := fun last => followed.elim (· last.1) (by simp [last.2])
    simp only [if_neg notLast, if_neg filled]
    exact ih

theorem leads_of_follow {t : FileTree} {followLast : Bool} {links : Nat}
    (beyond : ∀ here names p, linked t followLast links here names = .ok p →
      ∃ fewer, links = fewer + 1 ∧ Leads t followLast fewer here names p)
    {here : Location} {names : List String} {p : Place}
    (ok : follow t followLast (linked t followLast links) here names = .ok p) :
    Leads t followLast links here names p := by
  induction names generalizing here with
  | nil =>
    cases found : t.find? here with
    | none => simp [follow, found] at ok
    | some e =>
      simp only [follow, found, Except.ok.injEq] at ok
      exact ok ▸ .stay found
  | cons name rest ih =>
    by_cases stays : name = "" ∨ name = "."
    · rw [follow, if_pos stays] at ok
      exact .skip stays (ih ok)
    by_cases up : name = ".."
    · rw [follow, if_neg stays, if_pos up] at ok
      exact up ▸ .up (ih ok)
    by_cases long : maxName < name.utf8ByteSize
    · rw [follow, if_neg stays, if_neg up, if_pos long] at ok
      cases ok
    rw [not_or] at stays
    have isName : IsName name := ⟨stays.1, stays.2, up, Nat.not_lt.mp long⟩
    rw [follow_of_isName isName] at ok
    cases found : t.find? (here ++ [name]) with
    | none =>
      simp only [found] at ok
      by_cases last : rest = [] ∨ rest = [""]
      · rw [if_pos last, Except.ok.injEq] at ok
        exact ok ▸ .vacant isName found last
      · rw [if_neg last] at ok
        cases ok
    | some e =>
      cases e with
      | directory mode =>
        simp only [found] at ok
        exact .into isName found (ih ok)
      | file content mode =>
        simp only [found] at ok
        by_cases last : rest = [] ∨ rest = [""]
        · rw [if_pos last, Except.ok.injEq] at ok
          exact ok ▸ .file isName found last
        · rw [if_neg last] at ok
          cases ok
      | link target =>
        simp only [found] at ok
        by_cases meant : rest = [] ∧ followLast = false
        · rw [if_pos meant, Except.ok.injEq] at ok
          obtain ⟨rfl, meant⟩ := meant
          exact ok ▸ .lastLink isName meant found
        · rw [if_neg meant] at ok
          by_cases empty : target = ""
          · rw [if_pos empty] at ok
            cases ok
          · rw [if_neg empty] at ok
            obtain ⟨fewer, rfl, leads⟩ := beyond _ _ _ ok
            refine .link isName ?_ found empty leads
            by_cases last : rest = []
            · right
              simpa using fun off => meant ⟨last, off⟩
            · exact .inl last

theorem leads_of_walk {t : FileTree} {followLast : Bool} {links : Nat} {here : Location}
    {names : List String} {p : Place} (ok : walk t followLast links here names = .ok p) :
    Leads t followLast links here names p := by
  induction links generalizing here names p with
  | zero =>
    apply leads_of_follow _ (walk_eq_follow t followLast 0 ▸ ok)
    intro _ _ _ ok
    cases ok
  | succ links ih =>
    apply leads_of_follow _ (walk_eq_follow t followLast (links + 1) ▸ ok)
    intro _ _ _ ok
    exact ⟨links, rfl, ih ok⟩

theorem walk_eq_ok_iff {t : FileTree} {followLast : Bool} {links : Nat} {here : Location}
    {names : List String} {p : Place} :
    walk t followLast links here names = .ok p ↔ Leads t followLast links here names p :=
  ⟨leads_of_walk, walk_of_leads⟩

/-- Names that all lead to directories: the last of these, and how many links may still be followed
from there. -/
inductive Enters (t : FileTree) : Nat → Location → List String → Nat → Location → Prop
  | here {links here} : Enters t links here [] links here
  | skip {links here name rest left dir} : name = "" ∨ name = "." →
      Enters t links here rest left dir → Enters t links here (name :: rest) left dir
  | up {links here rest left dir} : Enters t links here.dropLast rest left dir →
      Enters t links here (".." :: rest) left dir
  | into {links here name rest mode left dir} : IsName name →
      t.find? (here ++ [name]) = some (.directory mode) →
      Enters t links (here ++ [name]) rest left dir → Enters t links here (name :: rest) left dir
  | link {links here name rest target left dir} : IsName name →
      t.find? (here ++ [name]) = some (.link target) → target ≠ "" →
      Enters t links (linkStart here target) (Path.segments target ++ rest) left dir →
      Enters t (links + 1) here (name :: rest) left dir

theorem not_isName_of_stays {name : String} (stays : name = "" ∨ name = ".") : ¬IsName name :=
  fun isName => stays.elim isName.filled isName.noDot

theorem Enters.append {t : FileTree} {links left fewer : Nat} {here dir last : Location}
    {names rest : List String} (first : Enters t links here names left dir)
    (second : Enters t left dir rest fewer last) : Enters t links here (names ++ rest) fewer last := by
  induction first with
  | here => exact second
  | skip stays _ ih => exact .skip stays (ih second)
  | up _ ih => exact .up (ih second)
  | into isName found _ ih => exact .into isName found (ih second)
  | link isName found filled _ ih =>
    have further := ih second
    rw [List.append_assoc] at further
    exact .link isName found filled further

theorem Enters.split {t : FileTree} {links fewer : Nat} {here last : Location}
    {names rest : List String} (whole : Enters t links here (names ++ rest) fewer last) :
    ∃ left dir, Enters t links here names left dir ∧ Enters t left dir rest fewer last := by
  -- a link puts names in front, but leaves fewer links to follow: the names are counted second
  induction links using Nat.strong_induction_on generalizing here names with
  | _ links outer =>
    induction names generalizing here with
    | nil => exact ⟨links, here, .here, whole⟩
    | cons first names ih =>
      cases whole with
      | skip stays whole =>
        obtain ⟨left, dir, before, after⟩ := ih whole
        exact ⟨left, dir, .skip stays before, after⟩
      | up whole =>
        obtain ⟨left, dir, before, after⟩ := ih whole
        exact ⟨left, dir, .up before, after⟩
      | into isName found whole =>
        obtain ⟨left, dir, before, after⟩ := ih whole
        exact ⟨left, dir, .into isName found before, after⟩
      | @link links _ _ _ target _ _ isName found filled whole =>
        change Enters t links _ (_ ++ (names ++ rest)) fewer last at whole
        rw [← List.append_assoc] at whole
        obtain ⟨left, dir, before, after⟩ := outer links (Nat.lt_succ_self links) whole
        exact ⟨left, dir, .link isName found filled before, after⟩

theorem Enters.unique {t : FileTree} {links left fewer : Nat} {here dir last : Location}
    {names : List String} (first : Enters t links here names left dir)
    (second : Enters t links here names fewer last) : left = fewer ∧ dir = last := by
  induction first with
  | here => cases second; exact ⟨rfl, rfl⟩
  | skip stays _ ih =>
    cases second with
    | skip _ second => exact ih second
    | up second => simp at stays
    | into isName => exact absurd isName (not_isName_of_stays stays)
    | link isName => exact absurd isName (not_isName_of_stays stays)
  | up _ ih =>
    cases second with
    | skip stays => simp at stays
    | up second => exact ih second
    | into isName => exact absurd rfl isName.noDots
    | link isName => exact absurd rfl isName.noDots
  | into isName found _ ih =>
    cases second with
    | skip stays => exact absurd isName (not_isName_of_stays stays)
    | up => exact absurd rfl isName.noDots
    | into _ _ second => exact ih second
    | link _ other => simp [found] at other
  | link isName found _ _ ih =>
    cases second with
    | skip stays => exact absurd isName (not_isName_of_stays stays)
    | up => exact absurd rfl isName.noDots
    | into _ other => simp [found] at other
    | link _ other _ second =>
      obtain rfl : _ = _ := by simpa [found] using other
      exact ih second

theorem enters_of_stays {t : FileTree} {links left : Nat} {here dir : Location}
    {staying rest : List String} (stays : ∀ name ∈ staying, name = "" ∨ name = ".")
    (enters : Enters t links here rest left dir) : Enters t links here (staying ++ rest) left dir := by
  induction staying with
  | nil => exact enters
  | cons name staying ih =>
    rw [List.forall_mem_cons] at stays
    exact .skip stays.1 (ih stays.2)

theorem stays_of_not_kept {name : String} (dropped : ¬(name != "" && name != ".") = true) :
    name = "" ∨ name = "." := by
  by_cases empty : name = ""
  · exact .inl empty
  · right
    simpa [empty] using dropped

theorem Enters.of_named_eq {t : FileTree} {links left : Nat} {here dir : Location}
    {names others : List String} (enters : Enters t links here names left dir)
    (same : Path.named others = Path.named names) : Enters t links here others left dir := by
  have kept {name : String} (moves : name ≠ "" ∧ name ≠ ".") (rest : List String) :
      Path.named (name :: rest) = name :: Path.named rest := by
    simp [Path.named, moves]
  have apart {name : String} {rest others : List String} (moves : name ≠ "" ∧ name ≠ ".")
      (same : Path.named others = Path.named (name :: rest)) :
      ∃ staying tail, others = staying ++ name :: tail ∧
        (∀ other ∈ staying, other = "" ∨ other = ".") ∧ Path.named tail = Path.named rest := by
    rw [kept moves] at same
    obtain ⟨staying, tail, split, dropped, _, tails⟩ := List.filter_eq_cons_iff.mp same
    exact ⟨staying, tail, split, fun other member => stays_of_not_kept (dropped other member), tails⟩
  induction enters generalizing others with
  | @here links here =>
    have dropped := List.filter_eq_nil_iff.mp same
    have stays : Enters t links here (others ++ []) links here :=
      enters_of_stays (fun other member => stays_of_not_kept (dropped other member)) .here
    rwa [List.append_nil] at stays
  | skip stays _ ih =>
    apply ih
    rw [same]
    rcases stays with rfl | rfl <;> rfl
  | up _ ih =>
    obtain ⟨staying, tail, rfl, stays, tails⟩ := apart (by decide) same
    exact enters_of_stays stays (.up (ih tails))
  | into isName found _ ih =>
    obtain ⟨staying, tail, rfl, stays, tails⟩ := apart ⟨isName.filled, isName.noDot⟩ same
    exact enters_of_stays stays (.into isName found (ih tails))
  | link isName found filled _ ih =>
    obtain ⟨staying, tail, rfl, stays, tails⟩ := apart ⟨isName.filled, isName.noDot⟩ same
    refine enters_of_stays stays (.link isName found filled (ih ?_))
    rw [Path.named_append, Path.named_append, tails]

theorem named_steps (path : String) : Path.named (steps path) = Path.named (Path.segments path) := by
  simp only [steps]
  split
  · rw [Path.named_append]
    simp [Path.named]
  · rfl

theorem named_linkSteps (target : String) (rest : List String) :
    Path.named (linkSteps target rest) = Path.named (Path.segments target ++ rest) := by
  unfold linkSteps
  split
  · rename_i last
    rw [named_steps, last, List.append_nil]
  · rfl

theorem Leads.enters {t : FileTree} {followLast : Bool} {links : Nat} {here : Location}
    {names : List String} {p : Place} {mode : Nat} (leads : Leads t followLast links here names p)
    (directory : p.entry = some (.directory mode)) :
    ∃ left, Enters t links here names left p.location := by
  induction leads with
  | stay => exact ⟨_, .here⟩
  | skip stays _ ih =>
    obtain ⟨left, enters⟩ := ih directory
    exact ⟨left, .skip stays enters⟩
  | up _ ih =>
    obtain ⟨left, enters⟩ := ih directory
    exact ⟨left, .up enters⟩
  | vacant => cases directory
  | file => cases directory
  | into isName found _ ih =>
    obtain ⟨left, enters⟩ := ih directory
    exact ⟨left, .into isName found enters⟩
  | lastLink => cases directory
  | link isName _ found filled _ ih =>
    obtain ⟨left, enters⟩ := ih directory
    exact ⟨left, .link isName found filled (enters.of_named_eq (named_linkSteps ..).symm)⟩

theorem linkSteps_append (target : String) {names rest : List String} (more : rest ≠ []) :
    linkSteps target (names ++ rest) = Path.segments target ++ names ++ rest := by
  rw [linkSteps, if_neg (by simp [more]), List.append_assoc]

theorem not_atEnd_append {names rest : List String} (more : ¬AtEnd rest) : ¬AtEnd (names ++ rest) := by
  rintro (none | slash)
  · exact more (.inl (List.append_eq_nil_iff.mp none).2)
  · rcases List.append_eq_singleton_iff.mp slash with ⟨-, last⟩ | ⟨-, last⟩
    · exact more (.inr last)
    · exact more (.inl last)

theorem Enters.walk_append {t : FileTree} {followLast : Bool} {links left : Nat}
    {here dir : Location} {names rest : List String} (enters : Enters t links here names left dir)
    (more : rest ≠ []) :
    walk t followLast links here (names ++ rest) = walk t followLast left dir rest := by
  induction enters with
  | here => rfl
  | skip stays _ ih =>
    rw [walk_eq_follow, List.cons_append, follow, if_pos stays, ← walk_eq_follow]
    exact ih
  | up _ ih =>
    rw [walk_eq_follow, List.cons_append, follow, if_neg (by decide), if_pos rfl, ← walk_eq_follow]
    exact ih
  | into isName found _ ih =>
    rw [walk_eq_follow, List.cons_append, follow_of_isName isName, found]
    simpa only [walk_eq_follow] using ih
  | @link _ _ _ rest' target _ _ isName found filled _ ih =>
    have next : rest' ++ rest ≠ [] := List.append_ne_nil_of_right_ne_nil _ more
    rw [walk_eq_follow, List.cons_append, follow_of_isName isName, found]
    simp only [next, false_and, if_false, if_neg filled, linked]
    rw [linkSteps_append target more]
    exact ih

theorem Enters.leads {t : FileTree} {followLast : Bool} {links left : Nat} {here dir : Location}
    {names rest : List String} {p : Place} (enters : Enters t links here names left dir)
    (more : rest ≠ []) (leads : Leads t followLast left dir rest p) :
    Leads t followLast links here (names ++ rest) p := by
  rw [← walk_eq_ok_iff, enters.walk_append more]
  exact walk_of_leads leads

theorem Leads.split {t : FileTree} {followLast : Bool} {links : Nat} {here : Location}
    {names rest : List String} {p : Place} (leads : Leads t followLast links here (names ++ rest) p)
    (more : ¬AtEnd rest) :
    ∃ left dir, Enters t links here names left dir ∧ Leads t followLast left dir rest p := by
  have some : rest ≠ [] := fun none => more (.inl none)
  induction links using Nat.strong_induction_on generalizing here names with
  | _ links outer =>
    induction names generalizing here with
    | nil => exact ⟨links, here, .here, leads⟩
    | cons first names ih =>
      have notEnd : ¬AtEnd (names ++ rest) := not_atEnd_append more
      rw [List.cons_append] at leads
      generalize joined : names ++ rest = tail at leads notEnd
      cases leads with
      | skip stays leads =>
        obtain ⟨left, dir, before, after⟩ := ih (joined ▸ leads)
        exact ⟨left, dir, .skip stays before, after⟩
      | up leads =>
        obtain ⟨left, dir, before, after⟩ := ih (joined ▸ leads)
        exact ⟨left, dir, .up before, after⟩
      | vacant _ _ last => exact absurd last notEnd
      | file _ _ last => exact absurd last notEnd
      | into isName found leads =>
        obtain ⟨left, dir, before, after⟩ := ih (joined ▸ leads)
        exact ⟨left, dir, .into isName found before, after⟩
      | lastLink => exact absurd (.inl rfl) notEnd
      | @link links _ _ _ target _ isName _ found filled leads =>
        rw [← joined, linkSteps_append target some] at leads
        obtain ⟨left, dir, before, after⟩ := outer links (Nat.lt_succ_self links) leads
        exact ⟨left, dir, .link isName found filled before, after⟩

theorem hasDirectory_iff {t : FileTree} {l : Location} :
    t.hasDirectory l = true ↔ ∃ mode, t.find? l = some (.directory mode) := by
  unfold hasDirectory
  rcases t.find? l with _ | _ | mode | _ <;> simp [Entry.isDirectory]

section LeadsOn

variable {t : FileTree} {here : Location}

theorem leadsOn_of_directory (stands : t.hasDirectory here = true) (names : List String) :
    t.leadsOn here names = true := by
  cases names <;> simp [leadsOn, stands]

theorem leadsOn_of_stays {name : String} (stays : name = "" ∨ name = ".") (rest : List String) :
    t.leadsOn here (name :: rest) = t.leadsOn here rest := by
  cases stands : t.hasDirectory here with
  | true => rw [leadsOn_of_directory stands, leadsOn_of_directory stands]
  | false => simp [leadsOn, stands, stays]

theorem leadsOn_of_isName {name : String} (isName : IsName name) (rest : List String) :
    t.leadsOn here (name :: rest) = t.hasDirectory here := by
  simp [leadsOn, isName.filled, isName.noDot, isName.noDots]

theorem leadsOn_named (t : FileTree) (here : Location) (names : List String) :
    t.leadsOn here (Path.named names) = t.leadsOn here names := by
  induction names generalizing here with
  | nil => rfl
  | cons name rest ih =>
    by_cases stays : name = "" ∨ name = "."
    · have same : Path.named (name :: rest) = Path.named rest := by
        rcases stays with rfl | rfl <;> rfl
      rw [same, ih, leadsOn_of_stays stays]
    · have moves : Path.named (name :: rest) = name :: Path.named rest := by
        rw [not_or] at stays
        simp [Path.named, stays]
      simp [moves, leadsOn, stays, ih]

theorem leadsOn_append {names : List String} (on : t.leadsOn here names = true) (rest : List String) :
    t.leadsOn here (names ++ rest) = true := by
  induction names generalizing here with
  | nil => exact leadsOn_of_directory on rest
  | cons name names ih =>
    rw [leadsOn, Bool.or_eq_true] at on
    rw [List.cons_append, leadsOn, Bool.or_eq_true]
    refine on.imp id fun onward => ?_
    split at onward
    · rw [if_pos ‹_›]
      exact ih onward
    · rw [if_neg ‹_›]
      rw [Bool.and_eq_true] at onward ⊢
      exact ⟨onward.1, ih onward.2⟩

theorem leadsOn_before {names rest : List String} {name : String} (isPlain : Path.IsPlain name)
    (on : t.leadsOn here (names ++ name :: rest) = true) : t.leadsOn here names = true := by
  induction names generalizing here with
  | nil => simpa [leadsOn, isPlain.1, isPlain.2.2.1, isPlain.2.2.2] using on
  | cons first names ih =>
    rw [List.cons_append, leadsOn, Bool.or_eq_true] at on
    rw [leadsOn, Bool.or_eq_true]
    refine on.imp id fun onward => ?_
    split at onward
    · rw [if_pos ‹_›]
      exact ih onward
    · rw [if_neg ‹_›]
      rw [Bool.and_eq_true] at onward ⊢
      exact ⟨onward.1, ih onward.2⟩

theorem leadsOn_of_upward {names : List String} (upward : ".." ∉ names) :
    t.leadsOn here names = t.hasDirectory here := by
  induction names with
  | nil => rfl
  | cons name rest ih =>
    rw [List.mem_cons, not_or] at upward
    by_cases stays : name = "" ∨ name = "."
    · rw [leadsOn_of_stays stays, ih upward.2]
    · simp [leadsOn, stays, Ne.symm upward.1]

theorem leadsOn_of_directories {other : FileTree}
    (directories : ∀ l mode, t.find? l = some (.directory mode) →
      other.find? l = some (.directory mode))
    {names : List String} (on : t.leadsOn here names = true) : other.leadsOn here names = true := by
  have stands {l : Location} (directory : t.hasDirectory l = true) : other.hasDirectory l = true := by
    obtain ⟨mode, found⟩ := hasDirectory_iff.mp directory
    exact hasDirectory_iff.mpr ⟨mode, directories l mode found⟩
  induction names generalizing here with
  | nil => exact stands on
  | cons name rest ih =>
    rw [leadsOn, Bool.or_eq_true] at on ⊢
    refine on.imp stands fun onward => ?_
    split at onward
    · rw [if_pos ‹_›]
      exact ih onward
    · rw [if_neg ‹_›]
      rw [Bool.and_eq_true] at onward ⊢
      exact ⟨onward.1, ih onward.2⟩

end LeadsOn

theorem start_eq_ok_iff {t : FileTree} {path : String} {names : List String} {here : Location} :
    t.start path names = .ok here ↔ t.origin path = here ∧ t.leadsOn here names = true := by
  unfold start
  constructor
  · intro begins
    split at begins
    · rename_i on
      cases begins
      exact ⟨rfl, on⟩
    · cases begins
  · rintro ⟨rfl, on⟩
    exact if_pos on

/-- A path leads through names to a directory: where it stands, and how many links may still be
followed from there. -/
def Reaches (t : FileTree) (path : String) (names : List String) (left : Nat) (dir : Location) : Prop :=
  ∃ origin, t.start path names = .ok origin ∧ Enters t maxLinks origin names left dir

def Opens (t : FileTree) (path : String) : Prop :=
  ∃ left dir, t.Reaches path (Path.segments path) left dir

theorem start_congr {path other : String} {names others : List String}
    (absolute : Path.isAbsolute path = Path.isAbsolute other)
    (same : Path.named names = Path.named others) (t : FileTree) :
    t.start path names = t.start other others := by
  rw [start, start, origin, origin, absolute, ← leadsOn_named t _ names, same, leadsOn_named]

theorem Reaches.congr {t : FileTree} {path other : String} {names others : List String} {left : Nat}
    {dir : Location} (reaches : t.Reaches path names left dir)
    (start : Path.isAbsolute other = Path.isAbsolute path)
    (same : Path.named others = Path.named names) : t.Reaches other others left dir := by
  obtain ⟨origin, begins, enters⟩ := reaches
  exact ⟨origin, (start_congr start same t).trans begins, enters.of_named_eq same⟩

theorem Reaches.unique {t : FileTree} {path : String} {names : List String} {left fewer : Nat}
    {dir last : Location} (first : t.Reaches path names left dir)
    (second : t.Reaches path names fewer last) : left = fewer ∧ dir = last := by
  obtain ⟨origin, begins, enters⟩ := first
  obtain ⟨origin', begins', enters'⟩ := second
  obtain rfl : origin = origin' := Except.ok.inj (begins.symm.trans begins')
  exact enters.unique enters'

theorem start_before {t : FileTree} {path name : String} {names rest : List String} {here : Location}
    (plain : Path.IsPlain name) (begins : t.start path (names ++ name :: rest) = .ok here) :
    t.start path names = .ok here := by
  obtain ⟨same, on⟩ := start_eq_ok_iff.mp begins
  exact start_eq_ok_iff.mpr ⟨same, leadsOn_before plain on⟩

theorem start_append {t : FileTree} {path : String} {names : List String} {here : Location}
    (begins : t.start path names = .ok here) (rest : List String) :
    t.start path (names ++ rest) = .ok here := by
  obtain ⟨same, on⟩ := start_eq_ok_iff.mp begins
  exact start_eq_ok_iff.mpr ⟨same, leadsOn_append on rest⟩

theorem Reaches.split {t : FileTree} {path name : String} {names rest : List String} {fewer : Nat}
    {last : Location} (plain : Path.IsPlain name)
    (reaches : t.Reaches path (names ++ name :: rest) fewer last) :
    ∃ left dir, t.Reaches path names left dir ∧ Enters t left dir (name :: rest) fewer last := by
  obtain ⟨origin, begins, enters⟩ := reaches
  obtain ⟨left, dir, before, after⟩ := enters.split
  exact ⟨left, dir, ⟨origin, start_before plain begins, before⟩, after⟩

theorem Reaches.append {t : FileTree} {path : String} {names rest : List String} {left fewer : Nat}
    {dir last : Location} (reaches : t.Reaches path names left dir)
    (enters : Enters t left dir rest fewer last) : t.Reaches path (names ++ rest) fewer last := by
  obtain ⟨origin, begins, before⟩ := reaches
  exact ⟨origin, start_append begins rest, before.append enters⟩

theorem approach_eq_ok_iff {t : FileTree} {followLast : Bool} {path : String} {names : List String}
    {p : Place} :
    t.approach followLast path names = .ok p ↔
      checkPath path = .ok () ∧
        ∃ origin, t.start path names = .ok origin ∧
          Leads t followLast maxLinks origin names p := by
  cases checked : checkPath path with
  | error fault => simp [approach, checked, bind, Except.bind]
  | ok =>
    cases begins : t.start path names with
    | error fault => simp [approach, checked, begins, bind, Except.bind]
    | ok origin => simp [approach, checked, begins, bind, Except.bind, walk_eq_ok_iff]

theorem Reaches.approach_eq {t : FileTree} {followLast : Bool} {path : String}
    {names rest : List String} {left : Nat} {dir : Location}
    (reaches : t.Reaches path names left dir) (more : rest ≠ []) :
    t.approach followLast path (names ++ rest) =
      checkPath path >>= fun _ => walk t followLast left dir rest := by
  obtain ⟨origin, begins, enters⟩ := reaches
  rw [FileTree.approach, start_append begins]
  exact congrArg _ (funext fun _ => enters.walk_append more)

theorem Reaches.approach {t : FileTree} {followLast : Bool} {path : String} {names rest : List String}
    {left : Nat} {dir : Location} {p : Place} (checked : checkPath path = .ok ())
    (reaches : t.Reaches path names left dir) (more : rest ≠ [])
    (leads : Leads t followLast left dir rest p) :
    t.approach followLast path (names ++ rest) = .ok p := by
  rw [reaches.approach_eq more, checked]
  exact walk_of_leads leads

theorem reaches_of_approach {t : FileTree} {followLast : Bool} {path name : String}
    {names rest : List String} {p : Place} (plain : Path.IsPlain name)
    (ok : t.approach followLast path (names ++ name :: rest) = .ok p) :
    ∃ left dir, t.Reaches path names left dir ∧ Leads t followLast left dir (name :: rest) p := by
  obtain ⟨-, origin, begins, leads⟩ := approach_eq_ok_iff.mp ok
  have more : ¬AtEnd (name :: rest) := by simp [AtEnd, plain.1]
  obtain ⟨left, dir, enters, after⟩ := leads.split more
  exact ⟨left, dir, ⟨origin, start_before plain begins, enters⟩, after⟩

theorem existing_eq_ok_iff {t : FileTree} {followLast : Bool} {path : String} {l : Location}
    {e : Entry} :
    t.existing followLast path = .ok (l, e) ↔
      ∃ slash, t.place followLast path = .ok ⟨l, some e, slash⟩ ∧
        (slash = true → e.isDirectory = true) := by
  cases found : t.place followLast path with
  | error fault => simp [existing, found, bind, Except.bind]
  | ok p =>
    obtain ⟨at_, entry, slash⟩ := p
    cases entry with
    | none => simp [existing, found, bind, Except.bind]
    | some e' =>
      cases slash <;> cases directory : e'.isDirectory <;>
        simp [existing, found, bind, Except.bind, directory]
      · rintro rfl rfl
        exact directory
      · rintro rfl rfl
        exact directory

end ServerKeeper.FileTree

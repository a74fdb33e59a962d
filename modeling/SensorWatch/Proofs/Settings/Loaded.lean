import SensorWatch.Proofs.Json.Record
import SensorWatch.Proofs.Number.Numeral
import SensorWatch.Proofs.Settings.StateList

namespace SensorWatch

def Variable.inOrder : List Variable :=
  [databaseUrl, poolMax, listenPort, adminStates]

namespace Environment

inductive Gives (env : Environment) (var : Variable) (default : Nat) : Nat → Prop
  | unset : env var = none → Gives env var default default
  | set {s n} : env var = some s → Unsigned 32 s n → Gives env var default n

def stateEntries (env : Environment) : List String :=
  AdminSet.entries ((env .adminStates).getD "up")

def Unreadable (env : Environment) (var : Variable) (fault : IntFault) : Prop :=
  ∃ s, env var = some s ∧ (IntRange.unsigned 32).read s = .error fault

-- What can be wrong with a variable, each by itself. Of the entries of the list it is the first bad
-- one.
inductive Offends (env : Environment) : Variable → SettingsFault → Prop
  | databaseUrl : env .databaseUrl = none → Offends env .databaseUrl (.unset .databaseUrl)
  | poolMax {fault} :
    env.Unreadable .poolMax fault → Offends env .poolMax (.notInteger .poolMax fault)
  | listenPort {fault} :
    env.Unreadable .listenPort fault → Offends env .listenPort (.notInteger .listenPort fault)
  | noPort {n} :
    env.Gives .listenPort 8080 n → 65535 < n → Offends env .listenPort (.noPort n)
  | adminStates {before entry after} :
    env.stateEntries = before ++ entry :: after →
      (∀ e ∈ before, ∃ state : AdminState, state.IsNamedBy e) →
      (∀ state : AdminState, ¬state.IsNamedBy entry) → Offends env .adminStates (.noState entry)

structure Describes (env : Environment) (settings : Settings) : Prop where
  databaseUrl : env .databaseUrl = some settings.databaseUrl
  poolMax : env.Gives .poolMax 5 settings.poolMax.toNat
  listenPort : env.Gives .listenPort 8080 settings.listenPort.toNat
  named : ∀ entry ∈ env.stateEntries, ∃ state : AdminState, state.IsNamedBy entry
  contains_iff : ∀ state, settings.adminStates.contains state ↔
    ∃ entry ∈ env.stateEntries, state.IsNamedBy entry

variable {env : Environment} {var : Variable} {default n : Nat} {fault : SettingsFault}

theorem natural_eq_ok_iff : env.natural var default = .ok n ↔ env.Gives var default n := by
  rw [natural]
  constructor
  case mp =>
    intro h
    split at h
    case h_1 hv =>
      cases h
      exact .unset hv
    case h_2 s hv =>
      split at h
      case h_1 i hi =>
        cases h
        have ⟨n, hn, he⟩ :=
          IntRange.read?_unsigned_eq_some_iff.mp (Except.toOption_eq_some_iff.mpr hi)
        exact .set hv (by rwa [he])
      case h_2 => cases h
  case mpr =>
    intro h
    cases h
    case unset hv => rw [hv]
    case set s hv hn =>
      have hr := IntRange.read?_unsigned_eq_some_iff.mpr ⟨n, hn, rfl⟩
      rw [hv]
      simp [Except.toOption_eq_some_iff.mp hr]

theorem natural_eq_error_iff :
    env.natural var default = .error fault ↔
      ∃ f, env.Unreadable var f ∧ fault = .notInteger var f := by
  simp only [natural, Unreadable]
  cases env var
  case none => simp
  case some s => cases hr : (IntRange.unsigned 32).read s <;> simp [hr, eq_comm]

theorem listenPort_eq_ok_iff {port : UInt16} :
    env.listenPort = .ok port ↔ env.Gives .listenPort 8080 port.toNat := by
  rw [listenPort, Except.bind_eq_ok_iff, ← natural_eq_ok_iff]
  constructor
  case mp =>
    intro ⟨n, hn, h⟩
    split at h
    case isTrue hl =>
      cases h
      rwa [UInt16.toNat_ofNat_of_lt' hl]
    case isFalse => cases h
  case mpr =>
    intro h
    refine ⟨port.toNat, h, ?_⟩
    rw [if_pos port.toNat_lt, UInt16.ofNat_toNat]
    rfl

theorem listenPort_eq_error_iff :
    env.listenPort = .error fault ↔ env.Offends .listenPort fault := by
  rw [listenPort, Except.bind_eq_error_iff]
  constructor
  case mp =>
    rintro (h | ⟨n, hn, h⟩)
    · obtain ⟨f, hr, rfl⟩ := natural_eq_error_iff.mp h
      exact .listenPort hr
    · split at h
      case isTrue => cases h
      case isFalse hl =>
        cases h
        exact .noPort (natural_eq_ok_iff.mp hn) (Nat.lt_of_succ_le (Nat.le_of_not_lt hl))
  case mpr =>
    intro h
    cases h
    case listenPort hr => exact .inl (natural_eq_error_iff.mpr ⟨_, hr, rfl⟩)
    case noPort n hn hl =>
      refine .inr ⟨n, natural_eq_ok_iff.mpr hn, ?_⟩
      rw [if_neg (Nat.not_lt_of_le hl)]
      rfl

def outcome (env : Environment) : Variable → Except SettingsFault Unit
  | .databaseUrl => if env .databaseUrl = none then .error (.unset .databaseUrl) else .ok ()
  | .poolMax => (env.natural .poolMax 5).map fun _ => ()
  | .listenPort => env.listenPort.map fun _ => ()
  | .adminStates => (AdminSet.ofText ((env .adminStates).getD "up")).map fun _ => ()

theorem outcome_eq_error_iff : env.outcome var = .error fault ↔ env.Offends var fault := by
  cases var <;> rw [outcome]
  case databaseUrl =>
    constructor
    · intro h
      split at h
      case isTrue hv =>
        cases h
        exact .databaseUrl hv
      case isFalse => cases h
    · intro h
      cases h
      case databaseUrl hv => rw [if_pos hv]
  case poolMax =>
    rw [Except.map_eq_error_iff, natural_eq_error_iff]
    constructor
    · rintro ⟨f, hr, rfl⟩
      exact .poolMax hr
    · intro h
      cases h
      case poolMax hr => exact ⟨_, hr, rfl⟩
  case listenPort => rw [Except.map_eq_error_iff, listenPort_eq_error_iff]
  case adminStates =>
    rw [Except.map_eq_error_iff, AdminSet.ofText_eq_error_iff, ← stateEntries]
    constructor
    · rintro ⟨before, entry, after, hs, hb, hn, rfl⟩
      exact .adminStates hs hb hn
    · intro h
      cases h
      case adminStates hs hb hn => exact ⟨_, _, _, hs, hb, hn, rfl⟩

theorem outcome_eq_ok_iff : env.outcome var = .ok () ↔ ∀ fault, ¬env.Offends var fault := by
  simp only [← outcome_eq_error_iff]
  cases env.outcome var <;> simp

theorem map_load : (Settings.load env).map (fun _ => ()) = forM Variable.inOrder env.outcome := by
  simp only [Variable.inOrder, List.forM_cons, List.forM_nil, outcome, Settings.load]
  cases env .databaseUrl
  case none => rfl
  case some =>
    cases env.natural .poolMax 5
    case error => rfl
    case ok =>
      cases env.listenPort
      case error => rfl
      case ok => cases AdminSet.ofText ((env .adminStates).getD "up") <;> rfl

theorem Gives.lt (h : env.Gives var default n) (hd : default < UInt32.size) : n < UInt32.size := by
  cases h
  case unset => exact hd
  case set hn => exact hn.lt

theorem load_eq_ok_iff {settings : Settings} :
    Settings.load env = .ok settings ↔ env.Describes settings := by
  rw [Settings.load]
  cases hu : env .databaseUrl
  case none => exact iff_of_false nofun fun h => nomatch hu.symm.trans h.databaseUrl
  case some url =>
    simp only [Except.bind_eq_ok_iff, natural_eq_ok_iff, listenPort_eq_ok_iff]
    constructor
    case mp =>
      intro ⟨_, hu', poolMax, hp, listenPort, hl, adminStates, hs, he⟩
      cases hu'
      cases he
      have ⟨hn, hc⟩ := AdminSet.ofText_eq_ok_iff.mp hs
      refine ⟨hu, ?_, hl, hn, hc⟩
      rwa [UInt32.toNat_ofNat_of_lt' (hp.lt (by decide))]
    case mpr =>
      intro h
      have hs := AdminSet.ofText_eq_ok_iff.mpr ⟨h.named, h.contains_iff⟩
      refine ⟨url, rfl, _, h.poolMax, _, h.listenPort, _, hs, ?_⟩
      rw [UInt32.ofNat_toNat, Option.some.inj (hu.symm.trans h.databaseUrl)]
      rfl

theorem load_eq_error_iff :
    Settings.load env = .error fault ↔
      ∃ before var after, Variable.inOrder = before ++ var :: after
        ∧ (∀ v ∈ before, ∀ f, ¬env.Offends v f) ∧ env.Offends var fault := by
  rw [← Except.map_eq_error_iff, map_load, Except.forM_eq_error_iff]
  simp only [outcome_eq_ok_iff, outcome_eq_error_iff]

def stateWords (env : Environment) : List String :=
  env.stateEntries.map Text.lower

theorem exists_isNamedBy_iff {state : AdminState} :
    (∃ entry ∈ env.stateEntries, state.IsNamedBy entry) ↔ state.name ∈ env.stateWords := by
  rw [stateWords, List.mem_map]
  rfl

theorem forall_exists_isNamedBy_iff :
    (∀ entry ∈ env.stateEntries, ∃ state : AdminState, state.IsNamedBy entry) ↔
      ∀ word ∈ env.stateWords, ∃ state : AdminState, word = state.name := by
  rw [stateWords, List.forall_mem_map]
  rfl

variable {env' : Environment}

theorem Gives.congr (h : env.Gives var default n) (hv : env' var = env var) :
    env'.Gives var default n := by
  cases h
  case unset hu  => exact .unset (hv.trans hu)
  case set hs hn => exact .set (hv.trans hs) hn

theorem Describes.congr {settings : Settings} (h : env.Describes settings)
    (hv : ∀ var, var ≠ .adminStates → env' var = env var)
    (hw : ∀ word, word ∈ env'.stateWords ↔ word ∈ env.stateWords) : env'.Describes settings where
  databaseUrl := (hv .databaseUrl nofun).trans h.databaseUrl
  poolMax := h.poolMax.congr (hv .poolMax nofun)
  listenPort := h.listenPort.congr (hv .listenPort nofun)
  named := by
    simp only [forall_exists_isNamedBy_iff, hw]
    exact forall_exists_isNamedBy_iff.mp h.named
  contains_iff := by
    simp only [exists_isNamedBy_iff, hw]
    simpa only [exists_isNamedBy_iff] using h.contains_iff

-- Settings can be loaded exactly if the address is set, both numbers are unset or numbers of 32 bits,
-- the port is none too great, and each entry of the list that is not blank names a state. They are
-- then what the variables describe; of the list only the words count. Otherwise the first variable at
-- fault is named, and the first bad entry if this is the list.
theorem variables_decide_settings (env : Environment) :
    ((∃ settings, Settings.load env = .ok settings) ↔
        env .databaseUrl ≠ none ∧ (∃ n, env.Gives .poolMax 5 n)
          ∧ (∃ n ≤ 65535, env.Gives .listenPort 8080 n)
          ∧ ∀ entry ∈ env.stateEntries, ∃ state : AdminState, state.IsNamedBy entry)
      ∧ (∀ settings, Settings.load env = .ok settings ↔ env.Describes settings)
      ∧ (∀ (env' : Environment) (settings : Settings),
          (∀ var, var ≠ .adminStates → env' var = env var) →
          (∀ word, word ∈ env'.stateWords ↔ word ∈ env.stateWords) →
            (Settings.load env' = .ok settings ↔ Settings.load env = .ok settings))
      ∧ ∀ fault, Settings.load env = .error fault ↔
          ∃ before var after, Variable.inOrder = before ++ var :: after
            ∧ (∀ v ∈ before, ∀ f, ¬env.Offends v f) ∧ env.Offends var fault := by
  refine ⟨?loads, fun settings => load_eq_ok_iff, ?words, fun fault => load_eq_error_iff⟩
  case loads =>
    simp only [load_eq_ok_iff]
    constructor
    case mp =>
      intro ⟨settings, h⟩
      have hl := settings.listenPort.toNat_lt
      exact ⟨by simp [h.databaseUrl], ⟨_, h.poolMax⟩, ⟨_, Nat.le_of_lt_succ hl, h.listenPort⟩,
        h.named⟩
    case mpr =>
      intro ⟨hu, ⟨n, hp⟩, ⟨port, hb, hl⟩, hs⟩
      have ⟨url, hu⟩ := Option.ne_none_iff_exists'.mp hu
      have ⟨set, hs⟩ := AdminSet.exists_ofText_iff.mpr hs
      have ⟨hn, hc⟩ := AdminSet.ofText_eq_ok_iff.mp hs
      refine ⟨⟨url, .ofNat n, .ofNat port, set⟩, hu, ?_, ?_, hn, hc⟩
      · rwa [UInt32.toNat_ofNat_of_lt' (hp.lt (by decide))]
      · rwa [UInt16.toNat_ofNat_of_lt' (Nat.lt_succ_of_le hb)]
  case words =>
    intro env' settings hv hw
    rw [load_eq_ok_iff, load_eq_ok_iff]
    constructor
    · intro h
      exact h.congr (fun var hn => (hv var hn).symm) fun word => (hw word).symm
    · intro h
      exact h.congr hv hw

def listing (states : String) : Environment
  | .databaseUrl => some "postgres://db/envmon"
  | .poolMax => some "+010"
  | .listenPort => none
  | .adminStates => some states

def listed : Settings where
  databaseUrl := "postgres://db/envmon"
  poolMax := 10
  listenPort := 8080
  adminStates := { up := true, testing := true }

theorem listing_loaded :
    (listing "testing,up").Describes listed
      ∧ Settings.load (listing " Up,,TESTING ,up") = .ok listed
      ∧ ∃ before var after, Variable.inOrder = before ++ var :: after
        ∧ (∀ v ∈ before, ∀ f, ¬(listing "up, sideways ,east").Offends v f)
        ∧ (listing "up, sideways ,east").Offends var (.noState "sideways") := by
  have ⟨_, hd, hw, _⟩ := variables_decide_settings (listing "testing,up")
  have ⟨_, _, _, he⟩ := variables_decide_settings (listing "up, sideways ,east")
  have hl : Settings.load (listing "testing,up") = .ok listed := by decide +kernel
  have hv (var : Variable) (h : var ≠ .adminStates) :
      listing " Up,,TESTING ,up" var = listing "testing,up" var := by
    cases var
    case adminStates => exact absurd rfl h
    all_goals rfl
  have hs : (listing " Up,,TESTING ,up").stateWords = ["up", "testing", "up"] := by decide +kernel
  have hs' : (listing "testing,up").stateWords = ["testing", "up"] := by decide +kernel
  refine ⟨(hd listed).mp hl, (hw _ listed hv ?words).mpr hl, (he _).mp (by decide +kernel)⟩
  case words =>
    intro word
    rw [hs, hs']
    grind

end Environment
end SensorWatch

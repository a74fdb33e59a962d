import Mathlib.Data.String.Basic
import SensorWatch.Settings

namespace SensorWatch

namespace Text

variable {sep : Char} {s before behind : String}

theorem aroundLast?_eq_none_iff : aroundLast? sep s = none ↔ sep ∉ s.toList := by
  simp [aroundLast?]

theorem aroundLast?_of_toList_eq (hs : s.toList = before.toList ++ sep :: behind.toList)
    (hb : sep ∉ behind.toList) : aroundLast? sep s = some (before, behind) := by
  have hr : ∀ c ∈ behind.toList.reverse, (c != sep) = true := by
    intro c hc
    rw [bne_iff_ne]
    rintro rfl
    exact hb (List.mem_reverse.mp hc)
  simp [aroundLast?, hs, List.takeWhile_append_of_pos hr, List.dropWhile_append_of_pos hr]

theorem aroundLast?_eq_some_iff :
    aroundLast? sep s = some (before, behind) ↔
      s.toList = before.toList ++ sep :: behind.toList ∧ sep ∉ behind.toList := by
  constructor
  case mpr =>
    intro ⟨hs, hb⟩
    exact aroundLast?_of_toList_eq hs hb
  case mp =>
    intro h
    have hm : sep ∈ s.toList := by
      by_contra hm
      simp [aroundLast?_eq_none_iff.mpr hm] at h
    have ⟨back, front, hs, hb⟩ := List.eq_append_cons_of_mem (List.mem_reverse.mpr hm)
    replace hs : s.toList = front.reverse ++ sep :: back.reverse := by
      simpa using congrArg List.reverse hs
    have h' : aroundLast? sep s = some (.ofList front.reverse, .ofList back.reverse) :=
      aroundLast?_of_toList_eq (by simpa using hs) (by simpa using hb)
    cases h.symm.trans h'
    simpa using ⟨hs, hb⟩

theorem aroundLast?_append (sep : Char) (front s : String) {mark : String}
    (hm : mark.toList = [sep]) :
    aroundLast? sep (front ++ mark ++ s)
      = some (((aroundLast? sep s).map fun parts =>
          (front ++ mark ++ parts.1, parts.2)).getD (front, s)) := by
  cases h : aroundLast? sep s
  case none => exact aroundLast?_of_toList_eq (by simp [hm]) (aroundLast?_eq_none_iff.mp h)
  case some parts =>
    have ⟨hs, hb⟩ := aroundLast?_eq_some_iff.mp h
    exact aroundLast?_of_toList_eq (by simp [hs]) hb

end Text

def address (user password host : String) : String :=
  "postgres://" ++ user ++ ":" ++ password ++ "@" ++ host

-- What a mask leaves of a password: all of it up to its last colon.
def exposed (password : String) : String :=
  ((Text.aroundLast? ':' password).map fun (front, _) => front ++ ":").getD ""

theorem exposed_eq_empty_iff {password : String} :
    exposed password = "" ↔ ':' ∉ password.toList := by
  rw [← Text.aroundLast?_eq_none_iff, exposed]
  cases Text.aroundLast? ':' password <;> simp

section

variable (user password : String) {password' host : String}

theorem address_inj : address user password host = address user password' host ↔
    password = password' := by
  simp [address, String.append_left_inj, String.append_right_inj]

theorem masked_eq {url credentials rest : String}
    (hu : Text.aroundLast? '@' url = some (credentials, host))
    (hc : Text.aroundLast? ':' credentials = some (user, rest)) :
    masked url = user ++ ":****@" ++ host := by
  simp only [masked, hu, hc]

theorem masked_address (h : '@' ∉ host.toList) :
    masked (address user password host) = address user (exposed password ++ "****") host := by
  have hu : Text.aroundLast? '@' (address user password host)
      = some ("postgres://" ++ user ++ ":" ++ password, host) := by
    rw [address, Text.aroundLast?_append _ _ _ rfl, Text.aroundLast?_eq_none_iff.mpr h]
    rfl
  have hm : ":".toList = [':'] := rfl
  rw [masked_eq _ hu (Text.aroundLast?_append ':' ("postgres://" ++ user) password hm), address,
    exposed]
  cases Text.aroundLast? ':' password <;> simp [String.append_assoc]

end

namespace Settings

def withUrl (settings : Settings) (url : String) : Settings :=
  { settings with databaseUrl := url }

theorem log_withUrl_inj {settings : Settings} {url url' : String} :
    (settings.withUrl url).log = (settings.withUrl url').log ↔ masked url = masked url' := by
  simp only [log, withUrl, List.cons.injEq, true_and, and_true, String.append_right_inj]

-- The log covers the part of a password that no colon follows, and shows all the rest of it: nothing
-- exactly if there is no colon in the password. Two passwords are the same to it if they agree in what
-- it shows.
theorem log_withUrl_eq_iff (settings : Settings) (user : String) {host : String}
    (h : '@' ∉ host.toList) (password password' : String) :
    masked (address user password host) = address user (exposed password ++ "****") host
      ∧ (exposed password = "" ↔ ':' ∉ password.toList)
      ∧ ((settings.withUrl (address user password host)).log
          = (settings.withUrl (address user password' host)).log
        ↔ exposed password = exposed password') := by
  refine ⟨masked_address user password h, exposed_eq_empty_iff, ?_⟩
  rw [log_withUrl_inj, masked_address _ _ h, masked_address _ _ h, address_inj,
    String.append_left_inj]

def ofUrl (url : String) : Settings where
  databaseUrl := url
  poolMax := 5
  listenPort := 8080
  adminStates := { up := true }

theorem log_withUrl_admin :
    '@' ∉ "db/envmon".toList ∧
      ((ofUrl "").withUrl (address "admin" "s3cret" "db/envmon")).log
        = ((ofUrl "").withUrl (address "admin" "correct@horse" "db/envmon")).log ∧
      masked (address "admin" "s3:cret" "db/envmon") = "postgres://admin:s3:****@db/envmon" := by
  have h : '@' ∉ "db/envmon".toList := by decide
  have hl := log_withUrl_eq_iff (ofUrl "") "admin" h
  refine ⟨h, (hl "s3cret" "correct@horse").2.2.mpr (by decide), ?_⟩
  exact (hl "s3:cret" "").1.trans (by decide)

-- A colon in a password brings what stands in front of it into the log.
theorem not_forall_masked_eq :
    ¬∀ user password password' host : String,
      ':' ∉ user.toList → '@' ∉ user.toList → '@' ∉ host.toList →
      masked (address user password host) = masked (address user password' host) := by
  intro covered
  have h := covered "admin" "s3:cret" "hunter2" "db/envmon" (by decide) (by decide) (by decide)
  exact absurd h (by decide)

end Settings
end SensorWatch

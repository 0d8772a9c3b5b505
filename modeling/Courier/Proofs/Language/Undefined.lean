import Courier.Proofs.Language.Documents
import Courier.Proofs.Language.Outcome

/-! Members that are not there. A name without a value and a key that an object does not have are undefined. An
undefined value knows why it is one; it keeps some attributes to itself, which are undefined again, and a formula that
asks it for any other one is a fault. -/

namespace Courier.Language

namespace Value

/-- Whether an undefined value keeps an attribute to itself, so that asking for it is no fault. -/
def isKeptBack (key : String) : Bool := (undefined "" false).isClosed key

/-- The wording about an attribute that an undefined value keeps to itself. -/
def keptBackMessage (key : String) : String :=
  "access to attribute " ++ Text.quoted key ++ " of " ++ Text.quoted "Undefined" ++ " object is unsafe."

/-- The wording about the name that has no value, or about the key that is missing behind others. -/
def missingMessage (front : List String) (key : String) : String :=
  if front = [] then Text.quoted key ++ " is undefined"
  else Text.quoted "dict object" ++ " has no attribute " ++ Text.quoted key

/-- The wording about the value that the first open one of some keys is asked of. -/
def messageBefore : String → List String → String
  | message, [] => message
  | message, key :: keys => if isKeptBack key then messageBefore (keptBackMessage key) keys else message

theorem attributeOf_undefined (message key : String) :
    (undefined message false).attributeOf false key =
      if isKeptBack key then .ok (undefined (keptBackMessage key) false) else .error (.undefined message) := by
  have hclosed : (undefined message false).isClosed key = isKeptBack key := rfl
  have hmethods : (undefined message false).methodNames.contains key = false := rfl
  have hpart : (undefined message false).numberPart? key = Option.none := by
    unfold numberPart?
    split
    all_goals first | rfl | contradiction
  unfold attributeOf attribute?
  simp only [hclosed, hmethods, hpart, Bool.false_eq_true, if_false]
  cases isKeptBack key <;> rfl

end Value

namespace Eval

open Value

variable {setting : Setting} {run : Run}

/-- A fault of the owner is the fault of its members. -/
theorem outcome_members_error {e : Expression} {f : Fault} (keys : List String)
    (he : outcome (evaluate e) setting run = (.error f, run)) :
    outcome (evaluate (keys.foldl .member e)) setting run = (.error f, run) := by
  induction keys generalizing e with
  | nil => exact he
  | cons key keys ih =>
      apply ih
      rw [evaluate, outcome_bind, he]

variable (h : IsCalm setting run) (hchained : setting.manner.chained = false)

include h hchained

/-- A member of a value that is neither a loop nor the template is its attribute. -/
theorem outcome_member {e : Expression} {v : Value} (he : outcome (evaluate e) setting run = (.ok v, run))
    (hpresent : v.present [] = v) (hloop : ∀ i fields, v ≠ .record i .loop fields) (htemplate : v ≠ .builtin .template)
    (key : String) :
    outcome (evaluate (.member e key)) setting run = (v.attributeOf false key, run) := by
  have hchain : outcome chained setting run = (.ok false, run) := by
    rw [← hchained]
    rfl
  rw [evaluate, outcome_bind_of_ok _ _ _ he, memberOf, outcome_bind_of_ok _ _ _ (h.outcome_present _), hpresent]
  split
  · exact absurd rfl (hloop _ _)
  · exact absurd rfl htemplate
  · rw [outcome_bind_of_ok _ _ _ hchain]
    exact outcome_lift _ _ _

/-- A key that an object does not have is undefined. -/
theorem outcome_member_missing {e : Expression} {root : String} {path : List Nat} {entries : List (String × Document)}
    {front : List String} (hfront : front ≠ []) {key : String} (hkey : entryOf? key entries = Option.none)
    (he : outcome (evaluate e) setting run = (.ok (.ofDocument root path (.object entries)), run)) :
    outcome (evaluate (.member e key)) setting run = (.ok (.undefined (missingMessage front key) false), run) := by
  have hlookup := lookup_ofEntries_eq_none root path 0 hkey
  rw [outcome_member h hchained he rfl (fun _ _ => nofun) nofun key, ofDocument, attributeOf, hlookup, missingMessage,
    if_neg hfront]
  rfl

/-- Members of an undefined value are undefined as long as their keys are kept back. -/
theorem outcome_members_undefined {e : Expression} {message : String} (keys : List String)
    (he : outcome (evaluate e) setting run = (.ok (.undefined message false), run)) :
    outcome (evaluate (keys.foldl .member e)) setting run =
      (if keys.all isKeptBack then .ok (.undefined (messageBefore message keys) false)
        else .error (.undefined (messageBefore message keys)), run) := by
  induction keys generalizing e message with
  | nil => exact he
  | cons key keys ih =>
      have hmember := outcome_member h hchained he rfl (fun _ _ => nofun) nofun key
      rw [attributeOf_undefined] at hmember
      rw [List.foldl_cons, List.all_cons, messageBefore]
      cases hkey : isKeptBack key with
      | true =>
          rw [hkey] at hmember
          exact ih hmember
      | false =>
          rw [hkey] at hmember
          exact outcome_members_error keys hmember

end Eval

end Courier.Language

import Pacing.Proofs.Discretion
import Pacing.Proofs.Recovery
import Pacing.Proofs.Trimming

/-!
# Which messages are requests

A message can be wrong in several ways at once, and each field has rules of its own: the
region has one name and the account two, a null or a blank text leaves either of them
open, and the token is looked for on its own.  What is reported is the first defect in a
fixed order.  So the verdict on a message is determined by which defects it has and by
which token it carries, and only six of its members have to do with it.
-/

namespace Pacing

namespace Acceptance

open Request (requireToken requireDetails)

/-! ## What is given under a name -/

/-- Nothing is given under a name. -/
inductive Vacant (members : Json.Members) (name : String) : Prop where
  | absent (missing : members.get? name = none)
  | null (isNull : members.get? name = some .null)
  | blank {text : String} (found : members.get? name = some (.string text))
      (blank : Text.isBlank text = true)

/-- The first name under which something is given, and what is given there. -/
inductive Given (members : Json.Members) : List String → String → Json → Prop where
  | here {name : String} {others : List String} {value : Json}
      (filled : ¬ Vacant members name) (found : members.get? name = some value) :
      Given members (name :: others) name value
  | later {name first : String} {others : List String} {value : Json}
      (vacant : Vacant members name) (given : Given members others first value) :
      Given members (name :: others) first value

/-- What looking for a text under several names comes to. -/
inductive Scan (members : Json.Members) (names : List String) :
    Except SchedulerError (Option String) → Prop where
  | vacant (vacant : ∀ name ∈ names, Vacant members name) : Scan members names (.ok none)
  | text {name text : String} (given : Given members names name (.string text)) :
      Scan members names (.ok (some (Text.trim text)))
  | other {name : String} {value : Json} (given : Given members names name value)
      (kind : value.text? = none) :
      Scan members names (.error (.malformedRequest (name ++ " must be a string")))

/-- A token that a message carries, under its present name or else under the older
one. -/
inductive Carries : Json → ContinuationToken → Prop where
  | present {members : Json.Members} {token : ContinuationToken}
      (named : token.NamedBy members "ContinuationToken") : Carries (.object members) token
  | older {members : Json.Members} {token : ContinuationToken}
      (unnamed : ∀ other : ContinuationToken, ¬ other.NamedBy members "ContinuationToken")
      (named : token.NamedBy members "TaskToken") : Carries (.object members) token

section Given

variable {members : Json.Members} {names : List String}

theorem vacant_iff {name : String} {value : Json} (found : members.get? name = some value) :
    Vacant members name ↔
      value = .null ∨ ∃ text, value = .string text ∧ Text.isBlank text = true := by
  constructor
  · intro vacant
    cases vacant with
    | absent missing =>
        rw [missing] at found
        cases found
    | null isNull =>
        rw [isNull] at found
        exact .inl (Option.some.inj found).symm
    | @blank text isText blank =>
        rw [isText] at found
        exact .inr ⟨text, (Option.some.inj found).symm, blank⟩
  · rintro (rfl | ⟨text, rfl, blank⟩)
    · exact .null found
    · exact .blank found blank

theorem not_vacant_of_kind {name : String} {value : Json}
    (found : members.get? name = some value) (notNull : value ≠ .null)
    (kind : value.text? = none) : ¬ Vacant members name := by
  rw [vacant_iff found]
  rintro (isNull | ⟨text, rfl, -⟩)
  · exact notNull isNull
  · cases kind

theorem Given.found {name : String} {value : Json} (given : Given members names name value) :
    members.get? name = some value ∧ ¬ Vacant members name := by
  induction given with
  | here filled found => exact ⟨found, filled⟩
  | later vacant given induction => exact induction

theorem Given.isBlank {name text : String}
    (given : Given members names name (.string text)) : Text.isBlank text = false := by
  obtain ⟨found, filled⟩ := given.found
  rw [← Bool.not_eq_true]
  exact fun blank => filled (.blank found blank)

theorem Given.not_vacant {name : String} {value : Json}
    (given : Given members names name value) : ¬ ∀ other ∈ names, Vacant members other := by
  induction given with
  | here filled found => exact fun vacant => filled (vacant _ List.mem_cons_self)
  | later vacant given induction =>
      exact fun all => induction (List.forall_mem_cons.mp all).2

theorem Given.unique {name other : String} {value different : Json}
    (given : Given members names name value) (again : Given members names other different) :
    name = other ∧ value = different := by
  induction given with
  | here filled found =>
      cases again with
      | here _ refound => exact ⟨rfl, Option.some.inj (found.symm.trans refound)⟩
      | later vacant _ => exact absurd vacant filled
  | later vacant given induction =>
      cases again with
      | here filled _ => exact absurd vacant filled
      | later _ again => exact induction again

theorem Given.name_eq {name other : String} {value : Json}
    (given : Given members [name] other value) : other = name := by
  cases given with
  | here => rfl
  | later vacant given => cases given

theorem Scan.kind {name : String} {value : Json} {result : Option String}
    (scan : Scan members names (.ok result)) (given : Given members names name value) :
    value.text? ≠ none := by
  cases scan with
  | vacant vacant => exact absurd vacant given.not_vacant
  | text isText =>
      obtain ⟨-, rfl⟩ := isText.unique given
      exact nofun

theorem Scan.later {name : String} {result : Except SchedulerError (Option String)}
    (scan : Scan members names result) (vacant : Vacant members name) :
    Scan members (name :: names) result := by
  cases scan with
  | vacant others => exact .vacant (List.forall_mem_cons.mpr ⟨vacant, others⟩)
  | text given => exact .text (.later vacant given)
  | other given kind => exact .other (.later vacant given) kind

/-- By induction on the names, of which the first one decides unless nothing is given
under it. -/
theorem scan_firstText (members : Json.Members) (names : List String) :
    Scan members names (Message.firstText members names) := by
  induction names with
  | nil => exact .vacant (by simp)
  | cons name others induction =>
      rw [Message.firstText]
      split
      · next missing => exact induction.later (.absent missing)
      · next isNull => exact induction.later (.null isNull)
      · next text found =>
          split
          · next blank => exact induction.later (.blank found blank)
          · next filled =>
              apply Scan.text
              apply Given.here _ found
              rw [vacant_iff found]
              simpa using filled
      · next value notNull notText found =>
          have kind : value.text? = none := by
            cases value with
            | string text => exact absurd rfl (notText text)
            | _ => rfl
          exact .other (.here (not_vacant_of_kind found notNull kind) found) kind

theorem carries_iff (value : Json) (token : ContinuationToken) :
    Carries value token ↔ ContinuationToken.ofJson? value = some token := by
  cases value with
  | object members =>
      refine Iff.trans ?_ (ContinuationToken.firstOf_tokenNames_iff members token).symm
      constructor
      · intro carries
        cases carries with
        | present named => exact .inl named
        | older unnamed named => exact .inr ⟨unnamed, named⟩
      · rintro (named | ⟨unnamed, named⟩)
        · exact .present named
        · exact .older unnamed named
  | _ => exact ⟨nofun, nofun⟩

end Given

/-! ## Defects -/

/-- What can be wrong with a message, in the order in which it is reported. -/
inductive Defect where
  | notObject
  | regionKind
  | accountKind (name : String)
  | tokenMissing
  | accountEmpty
  | regionEmpty
  | detailsMissing
  | detailsKind
  deriving DecidableEq, Repr

namespace Defect

def rank : Defect → Nat
  | notObject => 0
  | regionKind => 1
  | accountKind _ => 2
  | tokenMissing => 3
  | accountEmpty => 4
  | regionEmpty => 5
  | detailsMissing => 6
  | detailsKind => 7

def reason : Defect → String
  | notObject => "message must be a JSON object"
  | regionKind => "ResourceRegion must be a string"
  | accountKind name => name ++ " must be a string"
  | tokenMissing => "ContinuationToken is missing"
  | accountEmpty => "AccountId cannot be empty"
  | regionEmpty => "ResourceRegion cannot be empty"
  | detailsMissing => "RemediationDetails is missing"
  | detailsKind => "RemediationDetails must be a JSON object"

end Defect

/-- A defect of a message, whatever else is wrong with it: several can be there at
once. -/
inductive Flaw : Json → Defect → Prop where
  | notObject {value : Json} (kind : value.members? = none) : Flaw value .notObject
  | regionKind {members : Json.Members} {value : Json}
      (found : members.get? "ResourceRegion" = some value) (notNull : value ≠ .null)
      (kind : value.text? = none) : Flaw (.object members) .regionKind
  | accountKind {members : Json.Members} {name : String} {value : Json}
      (given : Given members ["AccountId", "AccountID"] name value)
      (kind : value.text? = none) : Flaw (.object members) (.accountKind name)
  | tokenMissing {members : Json.Members}
      (missing : ∀ token, ¬ Carries (.object members) token) :
      Flaw (.object members) .tokenMissing
  | accountEmpty {members : Json.Members}
      (vacant : ∀ name ∈ ["AccountId", "AccountID"], Vacant members name) :
      Flaw (.object members) .accountEmpty
  | regionEmpty {members : Json.Members} (vacant : Vacant members "ResourceRegion") :
      Flaw (.object members) .regionEmpty
  | detailsMissing {members : Json.Members}
      (missing : members.get? "RemediationDetails" = none ∨
        members.get? "RemediationDetails" = some .null) :
      Flaw (.object members) .detailsMissing
  | detailsKind {members : Json.Members} {value : Json}
      (found : members.get? "RemediationDetails" = some value) (notNull : value ≠ .null)
      (kind : value.members? = none) : Flaw (.object members) .detailsKind

/-- The fields that a message has to have. -/
structure Schedulable (members : Json.Members) (account region : String)
    (token : ContinuationToken) (details : Json.Members) : Prop where
  isRegion : members.get? "ResourceRegion" = some (.string region)
  filled : Text.isBlank region = false
  isAccount : ∃ name, Given members ["AccountId", "AccountID"] name (.string account)
  carries : Carries (.object members) token
  isDetails : members.get? "RemediationDetails" = some (.object details)

/-- What becomes of a message: a request if it has all fields, and otherwise the first of
its defects, with the token that it carries. -/
inductive Verdict (value : Json) (observedAt : Int64) :
    Except MalformedMessage Request → Prop where
  | accepted {members details : Json.Members} {account region : String}
      {token : ContinuationToken} (isObject : value = .object members)
      (schedulable : Schedulable members account region token details) :
      Verdict value observedAt (.ok
        { scope := ⟨Text.trim account ++ "-" ++ Text.trim region⟩
          token, details, observedAt })
  | rejected {defect : Defect} {recovered : Option ContinuationToken}
      (flaw : Flaw value defect)
      (first : ∀ other, Flaw value other → defect.rank ≤ other.rank)
      (carried : ∀ token, recovered = some token ↔ Carries value token) :
      Verdict value observedAt (.error ⟨recovered, .malformedRequest defect.reason⟩)

/-! ### Verdicts are unique -/

section Unique

variable {value : Json} {observedAt : Int64}

theorem Carries.unique {token other : ContinuationToken} (carries : Carries value token)
    (again : Carries value other) : token = other := by
  rw [carries_iff] at carries again
  exact Option.some.inj (carries.symm.trans again)

/-- Two flaws of one rank are the same defect, since only one account is looked at. -/
theorem Flaw.unique {defect other : Defect} (flaw : Flaw value defect)
    (again : Flaw value other) (same : defect.rank = other.rank) : defect = other := by
  cases flaw with
  | accountKind given kind =>
      cases again with
      | accountKind regiven rekind => rw [(given.unique regiven).1]
      | _ => cases same
  | _ => cases again <;> first | rfl | cases same

theorem Schedulable.not_flaw {members details : Json.Members} {account region : String}
    {token : ContinuationToken} (schedulable : Schedulable members account region token details)
    (defect : Defect) : ¬ Flaw (.object members) defect := by
  obtain ⟨isRegion, filled, ⟨name, isAccount⟩, carries, isDetails⟩ := schedulable
  intro flaw
  cases flaw with
  | notObject kind => cases kind
  | regionKind found notNull kind =>
      rw [isRegion] at found
      cases found
      cases kind
  | accountKind given kind =>
      obtain ⟨rfl, rfl⟩ := isAccount.unique given
      cases kind
  | tokenMissing missing => exact missing token carries
  | accountEmpty vacant => exact isAccount.not_vacant vacant
  | regionEmpty vacant =>
      rcases (vacant_iff isRegion).mp vacant with isNull | ⟨text, isText, blank⟩
      · cases isNull
      · cases isText
        rw [filled] at blank
        cases blank
  | detailsMissing missing =>
      rw [isDetails] at missing
      rcases missing with missing | missing <;> cases missing
  | detailsKind found notNull kind =>
      rw [isDetails] at found
      cases found
      cases kind

theorem Verdict.unique {outcome other : Except MalformedMessage Request}
    (verdict : Verdict value observedAt outcome) (again : Verdict value observedAt other) :
    outcome = other := by
  cases verdict with
  | accepted isObject schedulable =>
      subst isObject
      cases again with
      | accepted isObject reschedulable =>
          cases isObject
          obtain ⟨name, given⟩ := schedulable.isAccount
          obtain ⟨rename, regiven⟩ := reschedulable.isAccount
          have region := schedulable.isRegion.symm.trans reschedulable.isRegion
          have details := schedulable.isDetails.symm.trans reschedulable.isDetails
          obtain ⟨-, account⟩ := given.unique regiven
          cases region
          cases details
          cases account
          rw [schedulable.carries.unique reschedulable.carries]
      | rejected flaw => exact absurd flaw (schedulable.not_flaw _)
  | rejected flaw first carried =>
      cases again with
      | accepted isObject schedulable =>
          subst isObject
          exact absurd flaw (schedulable.not_flaw _)
      | rejected reflaw refirst recarried =>
          have same := flaw.unique reflaw
            (Nat.le_antisymm (first _ reflaw) (refirst _ flaw))
          have recovered : _ = _ := Option.ext fun token =>
            (carried token).trans (recarried token).symm
          rw [same, recovered]

end Unique

/-! ## The verdict that is given

Each check that a message passes rules out the defects of one more rank, and the check
that it does not pass finds a defect of the rank that is next. -/

/-- Everything that is wrong with a message is of this rank or of a later one. -/
def Spared (value : Json) (rank : Nat) : Prop :=
  ∀ defect, Flaw value defect → rank ≤ defect.rank

/-- A message that is no request takes its token along. -/
def concluded (value : Json) (fields : Except SchedulerError Request) :
    Except MalformedMessage Request :=
  fields.mapError fun error => { token := ContinuationToken.ofJson? value, error }

section Verdicts

variable {members : Json.Members} {observedAt : Int64}

theorem Spared.next {value : Json} {rank : Nat} (spared : Spared value rank)
    (none : ∀ defect, Flaw value defect → defect.rank ≠ rank) : Spared value (rank + 1) :=
  fun defect flaw => Nat.lt_of_le_of_ne (spared defect flaw) (none defect flaw).symm

theorem Spared.rejected {value : Json} {defect : Defect} (spared : Spared value defect.rank)
    (flaw : Flaw value defect) :
    Verdict value observedAt (concluded value (.error (.malformedRequest defect.reason))) :=
  .rejected flaw spared fun token => (carries_iff value token).symm

theorem verdict_notObject {value : Json} (kind : value.members? = none) :
    Verdict value observedAt (Request.ofJson value observedAt) := by
  have spared : Spared value 0 := fun _ _ => Nat.zero_le _
  have rejected : Verdict value observedAt _ := spared.rejected (.notObject kind)
  cases value with
  | object members => cases kind
  | _ => exact rejected

theorem verdict_details {account region : String} {token : ContinuationToken}
    (spared : Spared (.object members) 6)
    (isRegion : members.get? "ResourceRegion" = some (.string region))
    (filled : Text.isBlank region = false)
    (isAccount : ∃ name, Given members ["AccountId", "AccountID"] name (.string account))
    (carries : Carries (.object members) token) :
    Verdict (.object members) observedAt (concluded (.object members) do
      let details ← requireDetails (Message.detailsOf members)
      return { scope := ⟨Text.trim account ++ "-" ++ Text.trim region⟩
               token, details, observedAt }) := by
  unfold Message.detailsOf
  cases found : members.get? Message.detailsName with
  | none => exact spared.rejected (.detailsMissing (.inl found))
  | some value =>
      have present (notNull : value ≠ .null) : Spared (.object members) 7 := by
        apply spared.next
        intro defect flaw same
        cases flaw with
        | detailsMissing missing =>
            change members.get? "RemediationDetails" = some value at found
            rw [found] at missing
            rcases missing with missing | missing
            · cases missing
            · exact notNull (Option.some.inj missing)
        | _ => cases same
      cases value with
      | null => exact spared.rejected (.detailsMissing (.inr found))
      | object details =>
          exact .accepted rfl ⟨isRegion, filled, isAccount, carries, found⟩
      | _ => exact (present nofun).rejected (.detailsKind found nofun rfl)

/-- What is done behind the texts of a message and its token. -/
def schedule (members : Json.Members) (observedAt : Int64) (region account : Option String)
    (token : ContinuationToken) : Except SchedulerError Request := do
  let scope ← ScopeKey.ofNames (account.getD "") (region.getD "")
  let details ← requireDetails (Message.detailsOf members)
  return { scope, token, details, observedAt }

theorem ofNames_trim {account region : String} (named : Text.isBlank account = false)
    (filled : Text.isBlank region = false) :
    ScopeKey.ofNames (Text.trim account) (Text.trim region) =
      .ok ⟨Text.trim account ++ "-" ++ Text.trim region⟩ := by
  unfold ScopeKey.ofNames
  rw [Text.isBlank_trim, Text.isBlank_trim, named, filled, Text.trim_trim, Text.trim_trim]
  rfl

theorem ofNames_blank {account region : String} (named : Text.isBlank account = false)
    (blank : Text.isBlank region = true) :
    ScopeKey.ofNames (Text.trim account) region =
      .error (.malformedRequest "ResourceRegion cannot be empty") := by
  unfold ScopeKey.ofNames
  rw [Text.isBlank_trim, named, blank]
  rfl

theorem verdict_names {region account : Option String} {token : ContinuationToken}
    (spared : Spared (.object members) 4)
    (isRegion : Scan members ["ResourceRegion"] (.ok region))
    (isAccount : Scan members ["AccountId", "AccountID"] (.ok account))
    (carries : Carries (.object members) token) :
    Verdict (.object members) observedAt
      (concluded (.object members) (schedule members observedAt region account token)) := by
  cases isAccount with
  | vacant vacant => exact spared.rejected (.accountEmpty vacant)
  | @text accountName account given =>
      have named := given.isBlank
      have afterAccount : Spared (.object members) 5 := by
        apply spared.next
        intro defect flaw same
        cases flaw with
        | accountEmpty vacant => exact given.not_vacant vacant
        | _ => cases same
      cases isRegion with
      | vacant vacant =>
          have blank : Text.isBlank "" = true := rfl
          have refused : schedule members observedAt none (some (Text.trim account)) token =
              .error (.malformedRequest Defect.regionEmpty.reason) := by
            unfold schedule
            rw [Option.getD_some, Option.getD_none, ofNames_blank named blank]
            rfl
          rw [refused]
          exact afterAccount.rejected (.regionEmpty (vacant _ List.mem_cons_self))
      | @text regionName region regiven =>
          obtain rfl := regiven.name_eq
          have filled := regiven.isBlank
          have afterRegion : Spared (.object members) 6 := by
            apply afterAccount.next
            intro defect flaw same
            cases flaw with
            | regionEmpty vacant => exact regiven.found.2 vacant
            | _ => cases same
          unfold schedule
          rw [Option.getD_some, Option.getD_some, ofNames_trim named filled]
          exact verdict_details afterRegion regiven.found.1 filled ⟨accountName, given⟩ carries

theorem verdict_token {region account : Option String} (spared : Spared (.object members) 3)
    (isRegion : Scan members ["ResourceRegion"] (.ok region))
    (isAccount : Scan members ["AccountId", "AccountID"] (.ok account)) :
    Verdict (.object members) observedAt (concluded (.object members) do
      let token ← requireToken (ContinuationToken.ofJson? (.object members))
      schedule members observedAt region account token) := by
  cases recovered : ContinuationToken.ofJson? (.object members) with
  | none =>
      have missing (token : ContinuationToken) : ¬ Carries (.object members) token := by
        rw [carries_iff, recovered]
        exact nofun
      exact spared.rejected (.tokenMissing missing)
  | some token =>
      have carries : Carries (.object members) token := (carries_iff _ token).mpr recovered
      have afterToken : Spared (.object members) 4 := by
        apply spared.next
        intro defect flaw same
        cases flaw with
        | tokenMissing missing => exact missing token carries
        | _ => cases same
      exact verdict_names afterToken isRegion isAccount carries

theorem ofFields_object (members : Json.Members) (observedAt : Int64) :
    Request.ofFields (.object members) observedAt = (do
      let region ← Message.firstText members Message.regionNames
      let account ← Message.firstText members Message.accountNames
      let token ← requireToken (ContinuationToken.ofJson? (.object members))
      schedule members observedAt region account token) := by
  unfold Request.ofFields Message.ofJson
  dsimp only
  cases Message.firstText members Message.regionNames with
  | error error => rfl
  | ok region =>
      cases Message.firstText members Message.accountNames with
      | error error => rfl
      | ok account => rfl

theorem spared_notObject (members : Json.Members) : Spared (.object members) 1 := by
  intro defect flaw
  cases flaw with
  | notObject kind => cases kind
  | _ => simp [Defect.rank]

theorem spared_regionKind {region : Option String}
    (isRegion : Scan members ["ResourceRegion"] (.ok region)) :
    Spared (.object members) 2 := by
  apply (spared_notObject members).next
  intro defect flaw same
  cases flaw with
  | regionKind found notNull kind =>
      exact isRegion.kind (.here (not_vacant_of_kind found notNull kind) found) kind
  | _ => cases same

theorem spared_accountKind {account : Option String} (spared : Spared (.object members) 2)
    (isAccount : Scan members ["AccountId", "AccountID"] (.ok account)) :
    Spared (.object members) 3 := by
  apply spared.next
  intro defect flaw same
  cases flaw with
  | accountKind given kind => exact isAccount.kind given kind
  | _ => cases same

theorem verdict_object (members : Json.Members) (observedAt : Int64) :
    Verdict (.object members) observedAt (Request.ofJson (.object members) observedAt) := by
  have isRegion := scan_firstText members Message.regionNames
  have isAccount := scan_firstText members Message.accountNames
  unfold Request.ofJson
  rw [ofFields_object]
  cases region : Message.firstText members Message.regionNames with
  | error error =>
      rw [region] at isRegion
      cases isRegion with
      | other given kind =>
          obtain ⟨found, filled⟩ := given.found
          obtain rfl := given.name_eq
          have notNull : _ ≠ Json.null := fun isNull =>
            filled ((vacant_iff found).mpr (.inl isNull))
          exact (spared_notObject members).rejected (.regionKind found notNull kind)
  | ok text =>
      rw [region] at isRegion
      have afterRegion := spared_regionKind isRegion
      cases account : Message.firstText members Message.accountNames with
      | error error =>
          rw [account] at isAccount
          cases isAccount with
          | other given kind => exact afterRegion.rejected (.accountKind given kind)
      | ok text =>
          rw [account] at isAccount
          exact verdict_token (spared_accountKind afterRegion isAccount) isRegion isAccount

/-- The verdict on a message is that of its first defect, if it has any. -/
theorem ofJson_verdict (value : Json) (observedAt : Int64) :
    Verdict value observedAt (Request.ofJson value observedAt) := by
  cases value with
  | object members => exact verdict_object members observedAt
  | _ => exact verdict_notObject rfl

end Verdicts

/-! ## Members that matter -/

/-- The names under which a field of a message is looked for. -/
def fieldNames : List String :=
  ["AccountID", "AccountId", "ContinuationToken", "RemediationDetails", "ResourceRegion",
    "TaskToken"]

/-- The members of a message without those that are no fields. -/
def pertinent (members : Json.Members) : Json.Members :=
  members.filter fun member => member.1 ∈ fieldNames

section Pertinent

variable {members others : Json.Members}

theorem get?_pertinent (members : Json.Members) {name : String} (isField : name ∈ fieldNames) :
    (pertinent members).get? name = members.get? name := by
  unfold pertinent Json.Members.get?
  rw [List.find?_filter]
  congr 2
  funext member
  by_cases isName : member.1 = name
  · simp [isName, isField]
  · simp [isName]

theorem firstOf_congr {names : List String}
    (same : ∀ name ∈ names, others.get? name = members.get? name) :
    ContinuationToken.firstOf others names = ContinuationToken.firstOf members names := by
  induction names with
  | nil => rfl
  | cons name names induction =>
      obtain ⟨here, behind⟩ := List.forall_mem_cons.mp same
      rw [ContinuationToken.firstOf, ContinuationToken.firstOf, here, induction behind]

theorem ofJson_congr (same : ∀ name ∈ fieldNames, others.get? name = members.get? name)
    (observedAt : Int64) :
    Request.ofJson (.object others) observedAt = Request.ofJson (.object members) observedAt := by
  have sameAmong {names : List String} (fields : names ⊆ fieldNames) :
      ∀ name ∈ names, others.get? name = members.get? name :=
    fun name member => same name (fields member)
  have region : Message.firstText others Message.regionNames =
      Message.firstText members Message.regionNames :=
    Discretion.firstText_congr (sameAmong (by decide))
  have account : Message.firstText others Message.accountNames =
      Message.firstText members Message.accountNames :=
    Discretion.firstText_congr (sameAmong (by decide))
  have token : ContinuationToken.ofJson? (.object others) =
      ContinuationToken.ofJson? (.object members) :=
    firstOf_congr (sameAmong (by decide))
  have details : Message.detailsOf others = Message.detailsOf members := by
    unfold Message.detailsOf
    rw [same Message.detailsName (by decide)]
  unfold Request.ofJson
  rw [ofFields_object, ofFields_object, region, account, token]
  unfold schedule
  rw [details]

end Pertinent

/-- The verdict on a message is that of the first defect that it has, and with none it is
a request.  Only the members with the name of a field have to do with it. -/
theorem message_verdict (value : Json) (observedAt : Int64) :
    (∀ outcome, Request.ofJson value observedAt = outcome ↔
      Verdict value observedAt outcome) ∧
    ∀ members, Request.ofJson (.object (pertinent members)) observedAt =
      Request.ofJson (.object members) observedAt := by
  have given := ofJson_verdict value observedAt
  constructor
  · intro outcome
    constructor
    · rintro rfl
      exact given
    · exact given.unique
  · intro members
    exact ofJson_congr (fun name isField => get?_pertinent members isField) observedAt

/-- Of several defects the first is reported, and the token is kept. -/
example :
    Request.ofJson (.object
        [("AccountID", .null), ("ResourceRegion", .bool true), ("TaskToken", .string " a ")])
      0 =
    .error ⟨some ⟨"a"⟩, .malformedRequest "ResourceRegion must be a string"⟩ := by
  rfl

end Acceptance

end Pacing

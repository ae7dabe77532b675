import UrlShortener.Http.Router
import UrlShortener.Proofs.Service.Course

/-
  Why operations fail. Backends may answer every call with
  any of their faults, or never; an operation comes to its
  end, and if it fails, the failure tells one of a few
  causes.

  Two of the causes leak. A save that answers that there is
  no such link makes a creation fail as if a link was
  missing, and a look-up that answers that a code is taken
  makes a resolution fail with a conflict. All other faults
  of backends make for internal failures, but for a look-up
  that finds nothing.

  Key definitions include:
    * `Dialogue.Answered`
    * `CreationFails`
    * `ResolutionFails`
    * `CountingFails`

  Main declarations:
    * `Dialogue.comes_to_end`
    * `Shortener.create_closes`
    * `Shortener.resolve_closes`
    * `Site.failures_have_causes`
-/

------------------------------------------------------------
-- Ends Of Courses
------------------------------------------------------------

namespace UrlShortener

namespace Dialogue

variable {α : Type}

/- The first events of all that happen. -/
def firstEvents (happens : Nat → Event) (n : Nat) : List Event :=
  (List.range n).map happens

theorem firstEvents_succ (happens : Nat → Event) (n : Nat) :
    firstEvents happens (n + 1) =
      happens 0 :: firstEvents (fun k => happens (k + 1)) n := by
  rw [firstEvents, List.range_succ_eq_map, List.map_cons,
    List.map_map]
  rfl

/-
  Whatever a dialogue calls, the next event answers it. That
  a backend never answers makes for an event as well, since
  no answer has come in time.
-/
def Answered
    (d : Dialogue α)
    (happens : Nat → Event) : Prop :=
  ∀ n rest, d.after (firstEvents happens n) = some rest →
    (∃ result, rest = .done result) ∨
      (rest.feed? (happens n)).isSome = true

/- What holds if it holds after the next event, holds. -/
theorem feed_induction
    {P : Dialogue α → Prop}
    (hFeed :
      ∀ d, (∀ e next, d.feed? e = some next → P next) → P d)
    (d : Dialogue α) : P d := by
  induction d with
  | done result =>
      refine hFeed _ fun e next hNext => ?_
      simp at hNext
  | readClock next ih =>
      refine hFeed _ fun e next hNext => ?_
      cases e <;> cases hNext
      exact ih _
  | draw length next ih =>
      refine hFeed _ fun e next hNext => ?_
      cases e <;> cases hNext
      exact ih _
  | save limit new next ih =>
      refine hFeed _ fun e next hNext => ?_
      cases e <;> cases hNext
      exact ih _
  | find limit code next ih =>
      refine hFeed _ fun e next hNext => ?_
      cases e <;> cases hNext
      exact ih _
  | count limit code next ih =>
      refine hFeed _ fun e next hNext => ?_
      cases e <;> cases hNext
      exact ih _
  | probe limit next ih =>
      refine hFeed _ fun e next hNext => ?_
      cases e <;> cases hNext
      exact ih _ _
  | visit code next ih =>
      refine hFeed _ fun e next hNext => ?_
      cases e <;> cases hNext
      exact ih _
  | places next ih =>
      refine hFeed _ fun e next hNext => ?_
      cases e <;> cases hNext
      exact ih _
  | note metric next ih =>
      refine hFeed _ fun e next hNext => ?_
      cases e <;> cases hNext
      exact ih

/- A dialogue whose calls are answered comes to its end. -/
theorem comes_to_end
    (d : Dialogue α)
    (happens : Nat → Event)
    (hAnswered : d.Answered happens) :
    ∃ n result,
      d.after (firstEvents happens n) =
        some (.done result) := by
  induction d using feed_induction generalizing happens with
  | hFeed d ih =>
      rcases hAnswered 0 d rfl with ⟨result, rfl⟩ | hSome
      · exact ⟨0, result, rfl⟩
      · rcases Option.isSome_iff_exists.mp hSome with
          ⟨next, hNext⟩
        have hLater :
            next.Answered fun k => happens (k + 1) := by
          intro n rest hAfter
          refine hAnswered (n + 1) rest ?_
          rw [firstEvents_succ]
          exact after_cons_eq_some_iff.mpr
            ⟨next, hNext, hAfter⟩
        rcases ih _ _ hNext _ hLater with ⟨n, result, hEnd⟩
        refine ⟨n + 1, result, ?_⟩
        rw [firstEvents_succ]
        exact after_cons_eq_some_iff.mpr ⟨next, hNext, hEnd⟩

end Dialogue

end UrlShortener

------------------------------------------------------------
-- Causes Of Failures
------------------------------------------------------------

namespace UrlShortener

/- Why the creation of a link fails. -/
inductive CreationFails
    (policy : Policy)
    (request : LinkRequest)
    (events : List Event) : Failure → Prop where
| refused
    (fault : DestinationFault)
    (hFault :
      Destination.validate request.longUrl = .error fault) :
    CreationFails policy request events
      (.ofDestination request.longUrl fault)
| unreachable
    (ttl : Int)
    (now : Timestamp)
    (hTtl : policy.defaultTtl = some ttl)
    (hNow : .clock now ∈ events)
    (hNone : now.addSeconds? ttl = none) :
    CreationFails policy request events
      (Shortener.unreachableExpiry ttl)
| undrawn
    (fault : MintFault)
    (hDrew : .drew (.error fault) ∈ events) :
    CreationFails policy request events (.ofMint fault)
| unsaved
    (fault : StoreFault)
    (hSaved : .saved (some (.error fault)) ∈ events)
    (hOther : ∀ code, fault ≠ .conflict code) :
    CreationFails policy request events (.ofStore fault)
| late (hSaved : .saved none ∈ events) :
    CreationFails policy request events
      (Shortener.storeTimeout policy.storeTimeout)
| exhausted :
    CreationFails policy request events
      (.exhausted policy.maxAttempts)

/- Why the resolution of a code fails. -/
inductive ResolutionFails
    (policy : Policy)
    (code : String)
    (events : List Event) : Failure → Prop where
| blank (hBlank : Text.isBlankText code = true) :
    ResolutionFails policy code events Shortener.blankCode
| unknown
    (hFound : .found (some (.error .notFound)) ∈ events) :
    ResolutionFails policy code events
      (Shortener.unknownCode code)
| expired
    (link : Link)
    (now : Timestamp)
    (hFound : .found (some (.ok link)) ∈ events)
    (hNow : .clock now ∈ events)
    (hExpired : link.expiredAt now = true) :
    ResolutionFails policy code events
      (Shortener.expiredCode code)
| unfound
    (fault : StoreFault)
    (hFound : .found (some (.error fault)) ∈ events)
    (hOther : fault ≠ .notFound) :
    ResolutionFails policy code events (.ofStore fault)
| late (hFound : .found none ∈ events) :
    ResolutionFails policy code events
      (Shortener.storeTimeout policy.storeTimeout)

/- Why the reading of a count fails. -/
inductive CountingFails
    (policy : Policy)
    (events : List Event) : Failure → Prop where
| uncounted
    (fault : CounterFault)
    (hCounted : .counted (some (.error fault)) ∈ events) :
    CountingFails policy events (.ofCounter fault)
| late (hCounted : .counted none ∈ events) :
    CountingFails policy events
      (.ofCounter (.timeout (Span.ofMillis policy.storeTimeout)))

/- The kinds of failures. -/
inductive FailureKind where
| invalid
| notFound
| conflict
| exhausted
| internal
deriving DecidableEq, Repr

def Failure.kind : Failure → FailureKind
| .invalid _ _ => .invalid
| .notFound _ _ => .notFound
| .conflict _ _ => .conflict
| .exhausted _ => .exhausted
| .internal _ _ => .internal

/-
  What has happened when a creation fails in a certain way:
  it is never told that a link is missing, unless a save was
  answered so.
-/
def CreationMayEnd (events : List Event) : FailureKind → Prop
| .notFound => .saved (some (.error .notFound)) ∈ events
| .conflict => False
| _ => True

/-
  What has happened when a resolution fails in a certain
  way: the link is missing only if none was found or it has
  expired, and there is a conflict only if a look-up was
  answered so.
-/
def ResolutionMayEnd (events : List Event) : FailureKind → Prop
| .notFound =>
    .found (some (.error .notFound)) ∈ events ∨
      ∃ link now, .found (some (.ok link)) ∈ events ∧
        .clock now ∈ events ∧ link.expiredAt now = true
| .conflict =>
    ∃ taken, .found (some (.error (.conflict taken))) ∈ events
| .exhausted => False
| _ => True

variable {policy : Policy} {events : List Event}
variable {failure : Failure}

theorem CreationFails.mayEnd
    {request : LinkRequest}
    (hFails : CreationFails policy request events failure) :
    CreationMayEnd events failure.kind := by
  cases hFails with
  | unsaved fault hSaved hOther =>
      cases fault with
      | conflict code => exact absurd rfl (hOther code)
      | notFound => exact hSaved
      | _ => exact True.intro
  | _ => exact True.intro

theorem ResolutionFails.mayEnd
    {code : String}
    (hFails : ResolutionFails policy code events failure) :
    ResolutionMayEnd events failure.kind := by
  cases hFails with
  | unknown hFound => exact Or.inl hFound
  | expired link now hFound hNow hExpired =>
      exact Or.inr ⟨link, now, hFound, hNow, hExpired⟩
  | unfound fault hFound hOther =>
      cases fault with
      | conflict taken => exact ⟨taken, hFound⟩
      | notFound => exact absurd rfl hOther
      | _ => exact True.intro
  | _ => exact True.intro

theorem CountingFails.kind
    (hFails : CountingFails policy events failure) :
    failure.kind = .internal := by
  cases hFails with
  | _ => rfl

/- A result, and why it is a failure if it is one. -/
def FailsBy
    {α : Type}
    (Fails : List Event → Failure → Prop)
    (events : List Event) : Except Failure α → Prop
| .ok _ => True
| .error failure => Fails events failure

end UrlShortener

------------------------------------------------------------
-- Failures Of Operations
------------------------------------------------------------

namespace UrlShortener

namespace Shortener

variable (policy : Policy) {request : LinkRequest}
variable (events : List Event)

/- A save that fails ends a creation, but for a taken code. -/
theorem afterSave_closes
    {again : Dialogue (Except Failure Link)}
    (hAgain :
      ∀ events,
        again.Closes (FailsBy (CreationFails policy request))
          events)
    (r : Option (Except StoreFault Link)) :
    (afterSave policy again r).Closes
      (FailsBy (CreationFails policy request))
      (events ++ [.saved r]) := by
  rcases r with _ | fault | link
  · exact .late List.mem_concat_self
  · cases fault with
    | conflict code => exact hAgain _
    | _ => exact .unsaved _ List.mem_concat_self nofun
  · exact True.intro

theorem attempt_closes
    (draft : String → NewLink)
    (left : Nat) :
    (attempt policy draft left).Closes
      (FailsBy (CreationFails policy request)) events := by
  induction left generalizing events with
  | zero => exact .exhausted
  | succ left ih =>
      rintro (fault | code)
      · exact .undrawn fault List.mem_concat_self
      · dsimp only
        split
        · exact ih _
        · exact afterSave_closes policy _ ih

/- A default expiry may lie beyond the calendar. -/
theorem withExpiry_closes
    (given : Option Timestamp)
    {next :
      Option Timestamp → Dialogue (Except Failure Link)}
    (hNext :
      ∀ expireAt events,
        (next expireAt).Closes
          (FailsBy (CreationFails policy request)) events) :
    (withExpiry policy given next).Closes
      (FailsBy (CreationFails policy request)) events := by
  unfold withExpiry
  split
  · exact hNext _ _
  · exact hNext _ _
  · rename_i ttl hTtl
    intro now
    dsimp only
    split
    · exact hNext _ _
    · rename_i hNone
      exact .unreachable ttl now hTtl List.mem_concat_self hNone

/- A creation fails for one of its causes. -/
theorem create_closes (request : LinkRequest) :
    (create policy request).Closes
      (FailsBy (CreationFails policy request)) events := by
  unfold create
  split
  · rename_i fault hFault
    exact .refused fault hFault
  · exact withExpiry_closes policy _ _ fun expireAt events =>
      attempt_closes policy events _ _

/- So does a resolution. -/
theorem resolve_closes (code : String) :
    (resolve policy code).Closes
      (FailsBy (ResolutionFails policy code)) events := by
  unfold resolve
  split
  · rename_i hBlank
    exact .blank hBlank
  · rintro (_ | fault | link)
    · exact .late List.mem_concat_self
    · cases fault with
      | notFound => exact .unknown List.mem_concat_self
      | _ => exact .unfound _ List.mem_concat_self nofun
    · intro now
      dsimp only
      split
      · rename_i hExpired
        exact .expired link now
          (List.mem_append_left _ List.mem_concat_self)
          List.mem_concat_self hExpired
      · intro taken
        dsimp only
        split
        · exact True.intro
        · exact True.intro

/- And the reading of a count. -/
theorem stats_closes (code : String) :
    (stats policy code).Closes
      (FailsBy (CountingFails policy)) events := by
  rintro (_ | fault | n)
  · exact .late List.mem_concat_self
  · exact .uncounted fault List.mem_concat_self
  · exact True.intro

end Shortener

end UrlShortener

------------------------------------------------------------
-- Answers To Creations
------------------------------------------------------------

namespace UrlShortener

namespace Site

/- How a request to create a link may be answered. -/
def MayAnswer
    (events : List Event)
    (answer : Response) : Prop :=
  answer.status ∈ [201, 400, 409, 500] ∨
    (answer.status = 404 ∧
      .saved (some (.error .notFound)) ∈ events)

variable {events : List Event}

theorem mayAnswer_of_status
    {answer : Response}
    (n : Nat)
    (hStatus : answer.status = n)
    (hOne : n ∈ [201, 400, 409, 500]) :
    MayAnswer events answer :=
  Or.inl (hStatus ▸ hOne)

theorem mayAnswer_of_mayEnd
    {failure : Failure}
    (hEnd : CreationMayEnd events failure.kind) :
    MayAnswer events (.ofFailure failure) := by
  cases failure with
  | invalid => exact mayAnswer_of_status 400 rfl (by decide)
  | notFound => exact Or.inr ⟨rfl, hEnd⟩
  | conflict => exact hEnd.elim
  | exhausted => exact mayAnswer_of_status 409 rfl (by decide)
  | internal => exact mayAnswer_of_status 500 rfl (by decide)

theorem create_mayAnswer
    (site : Site)
    (r : Request) : (site.create r).Closes MayAnswer [] := by
  unfold create
  split
  · exact mayAnswer_of_status 400 rfl (by decide)
  · refine (Shortener.create_closes site.policy [] _).map ?_
    intro events result hFails
    cases result with
    | ok link => exact mayAnswer_of_status 201 rfl (by decide)
    | error failure => exact mayAnswer_of_mayEnd hFails.mayEnd

/-
  Backends may answer every call with any fault, or never.
  An operation of the service comes to its end, and one that
  fails does so for one of its causes, which determines the
  failure, and in one of the ways that are its own, unless a
  fault leaks. A request to create a link is told that a
  link is missing only if a save was.
-/
theorem failures_have_causes (site : Site) :
    (∀ request events failure,
      (Shortener.create site.policy request).after events =
          some (.done (.error failure)) →
        CreationFails site.policy request events failure ∧
          CreationMayEnd events failure.kind) ∧
    (∀ code events failure,
      (Shortener.resolve site.policy code).after events =
          some (.done (.error failure)) →
        ResolutionFails site.policy code events failure ∧
          ResolutionMayEnd events failure.kind) ∧
    (∀ code events failure,
      (Shortener.stats site.policy code).after events =
          some (.done (.error failure)) →
        CountingFails site.policy events failure ∧
          failure.kind = .internal) ∧
    (∀ r events answer,
      (site.create r).after events = some (.done answer) →
        MayAnswer events answer) ∧
    (∀ (α : Type) (d : Dialogue α) happens,
      d.Answered happens →
        ∃ n result,
          d.after (Dialogue.firstEvents happens n) =
            some (.done result)) := by
  refine ⟨?_, ?_, ?_, ?_, fun α => Dialogue.comes_to_end⟩
  · intro request events failure hAfter
    have hFails : CreationFails _ _ events failure :=
      (Shortener.create_closes _ [] request).after hAfter
    exact ⟨hFails, hFails.mayEnd⟩
  · intro code events failure hAfter
    have hFails : ResolutionFails _ _ events failure :=
      (Shortener.resolve_closes _ [] code).after hAfter
    exact ⟨hFails, hFails.mayEnd⟩
  · intro code events failure hAfter
    have hFails : CountingFails _ events failure :=
      (Shortener.stats_closes _ [] code).after hAfter
    exact ⟨hFails, hFails.kind⟩
  · intro r events answer hAfter
    exact (site.create_mayAnswer r).after hAfter

/-
  Both faults leak: a creation is told that a link is
  missing, and a resolution that a code is taken.
-/
theorem faults_leak :
    (Shortener.create .usual
        { longUrl := "http://[::]", originalUrl := none
          userId := none, expireAt := none }).after
        [.clock ⟨0, 0, 0⟩, .drew (.ok "abc"),
          .saved (some (.error .notFound))] =
      some (.done (.error
        (.notFound "Short link not found" .empty))) ∧
    (Response.ofFailure
      (.notFound "Short link not found" .empty)).status =
        404 ∧
    (Shortener.resolve .usual "abc").after
        [.found (some (.error (.conflict "other")))] =
      some (.done (.error
        (.conflict "Short code already exists"
          (.record [("short_code", .text "other")])))) := by
  refine ⟨?_, rfl, ?_⟩
  · rfl
  · rfl

end Site

end UrlShortener

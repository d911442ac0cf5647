import Mathlib.Data.ENat.Lattice
import Rollup.Client
import Rollup.Proofs.Grouping.Table

/-!
# Retries of a client

A client calls the backend again after an error that may pass, but not more often than it
is allowed to. Main statement: a query that has a plan sends the plan's request once more
than there are such errors in front, up to the number of retries, and the last call alone
decides its result; a query without a plan sends nothing.
-/

namespace Rollup
namespace Client

/-!
# Errors that may pass
-/

def isPassing : Except BackendError Json -> Bool
  | .ok _ => false
  | .error error => error.isRetryable

/-- How many errors that may pass come before the first outcome of another kind; infinitely
many if no other outcome comes. -/
noncomputable def leadingErrors (outcomes : Nat -> Except BackendError Json) : ℕ∞ :=
  ⨅ (call : Nat) (_ : isPassing (outcomes call) = false), (call : ℕ∞)

theorem le_leadingErrors {outcomes : Nat -> Except BackendError Json} {count : Nat}
    (h : forall call, call < count -> isPassing (outcomes call) = true) :
    (count : ℕ∞) <= leadingErrors outcomes := by
  apply le_iInf₂
  intro call hcall
  apply Nat.cast_le.mpr
  apply Nat.le_of_not_lt
  intro hlt
  rw [h call hlt] at hcall
  cases hcall

theorem leadingErrors_le {outcomes : Nat -> Except BackendError Json} {call : Nat}
    (h : isPassing (outcomes call) = false) : leadingErrors outcomes <= call :=
  iInf₂_le call h

/-!
# Sending

A round of the loop sends the request once. It is the last one if no retries are left or
its outcome is none that may pass.
-/

section

variable (backend : Backend) (request : Request.Search)

theorem run_sendUpTo_zero (sent : List Request.Search) :
    (sendUpTo backend request 0).run sent = (backend sent.length request, sent ++ [request]) :=
  rfl

theorem run_sendUpTo_succ (retries : Nat) (sent : List Request.Search) :
    (sendUpTo backend request (retries + 1)).run sent
      = if isPassing (backend sent.length request) then
          (sendUpTo backend request retries).run (sent ++ [request])
        else
          (backend sent.length request, sent ++ [request]) := by
  rw [sendUpTo, send]
  simp only [StateT.run_bind, StateT.run_get, StateT.run_set, StateT.run_pure, pure_bind]
  cases backend sent.length request with
  | ok response => rfl
  | error error =>
      cases hpass : error.isRetryable with
      | true => simp only [isPassing, hpass, if_pos]
      | false =>
          simp only [isPassing, hpass, Bool.false_eq_true, if_false]
          rfl

/-- The calls of a loop that starts after `sent`: errors that may pass, and behind them the
outcome that the loop gives. -/
structure EndsAfter (sent : List Request.Search) (retries errors : Nat) : Prop where
  run : (sendUpTo backend request retries).run sent
    = (backend (sent.length + errors) request, sent ++ List.replicate (errors + 1) request)
  passing : forall call, call < errors -> isPassing (backend (sent.length + call) request) = true
  last : errors = retries
    ∨ errors < retries ∧ isPassing (backend (sent.length + errors) request) = false

theorem exists_endsAfter (retries : Nat) (sent : List Request.Search) :
    exists errors, EndsAfter backend request sent retries errors := by
  induction retries generalizing sent with
  | zero =>
      exists 0
      constructor
      · exact run_sendUpTo_zero backend request sent
      · intro call hcall
        exact absurd hcall (Nat.not_lt_zero call)
      · exact Or.inl rfl
  | succ retries ih =>
      have hrun := run_sendUpTo_succ backend request retries sent
      cases hpass : isPassing (backend sent.length request) with
      | false =>
          rw [hpass] at hrun
          exists 0
          constructor
          · exact hrun
          · intro call hcall
            exact absurd hcall (Nat.not_lt_zero call)
          · exact Or.inr ⟨Nat.succ_pos retries, hpass⟩
      | true =>
          rw [hpass] at hrun
          obtain ⟨errors, h⟩ := ih (sent ++ [request])
          have hplace : forall call,
              (sent ++ [request]).length + call = sent.length + (call + 1) := by
            intro call
            rw [List.length_append, List.length_singleton]
            omega
          exists errors + 1
          constructor
          · rw [hrun, if_pos rfl, h.run, hplace, List.append_assoc]
            rfl
          · intro call hcall
            cases call with
            | zero => exact hpass
            | succ call =>
                rw [← hplace]
                exact h.passing call (Nat.lt_of_succ_lt_succ hcall)
          · rw [← hplace]
            exact h.last.imp (congrArg (· + 1)) (And.imp_left Nat.succ_lt_succ)

end

theorem EndsAfter.errors_eq {backend : Backend} {request : Request.Search} {retries errors : Nat}
    (h : EndsAfter backend request [] retries errors) :
    (errors : ℕ∞) = min (leadingErrors (fun call => backend call request)) retries := by
  have hpassing : forall call, call < errors -> isPassing (backend call request) = true := by
    intro call hcall
    have hcall := h.passing call hcall
    rwa [List.length_nil, Nat.zero_add] at hcall
  have hle := @le_leadingErrors (fun call => backend call request) errors hpassing
  rcases h.last with rfl | ⟨hlt, hlast⟩
  · exact (min_eq_right hle).symm
  · rw [List.length_nil, Nat.zero_add] at hlast
    have heq := le_antisymm (@leadingErrors_le (fun call => backend call request) errors hlast) hle
    rw [heq]
    exact (min_eq_left (Nat.cast_le.mpr (Nat.le_of_lt hlt))).symm

/-!
# Queries
-/

/-- How a query with a plan is to be executed: what it sends, and its result by the outcome of
the last call. -/
structure IsDisciplined {alpha : Type} (backend : Backend) (retries : Nat) (plan : Plan)
    (shown : Answer -> alpha) (result : Except Error alpha) (sent : List Request.Search) :
    Prop where
  calls : (sent.length : ℕ∞)
    = min (leadingErrors (fun call => backend call plan.request)) retries + 1
  requests : forall request, request ∈ sent -> request = plan.request
  failed : forall error, backend (sent.length - 1) plan.request = .error error ->
    result = .error (.backend error)
  answered : forall response, backend (sent.length - 1) plan.request = .ok response ->
    result = (Answer.read plan.request response).map shown

theorem isDisciplined_execute {alpha : Type} (backend : Backend) (retries : Nat) (plan : Plan)
    (shown : Answer -> alpha) :
    IsDisciplined backend retries plan shown (((execute backend retries plan).run []).1.map shown)
      ((execute backend retries plan).run []).2 := by
  obtain ⟨errors, h⟩ := exists_endsAfter backend plan.request retries []
  have hrun := h.run
  rw [List.length_nil, Nat.zero_add, List.nil_append] at hrun
  have hsent : ((execute backend retries plan).run []).2
      = List.replicate (errors + 1) plan.request := by
    rw [execute, StateT.run_bind, hrun]
    cases backend errors plan.request with
    | ok response => rfl
    | error error => rfl
  have hlast : ((execute backend retries plan).run []).2.length - 1 = errors := by
    rw [hsent, List.length_replicate, Nat.add_sub_cancel]
  constructor
  · rw [hsent, List.length_replicate, Nat.cast_add, h.errors_eq, Nat.cast_one]
  · intro request hrequest
    rw [hsent] at hrequest
    exact List.eq_of_mem_replicate hrequest
  · intro error herror
    rw [hlast] at herror
    rw [execute, StateT.run_bind, hrun, herror]
    rfl
  · intro response hresponse
    rw [hlast] at hresponse
    rw [execute, StateT.run_bind, hrun, hresponse]
    rfl

theorem queryAs_discipline {alpha : Type} (shown : Plan -> Answer -> alpha)
    (options : Plan.Options) (backend : Backend) (retries : Nat) (sql : String) :
    (forall error, Plan.ofText options sql = .error error ->
      (queryAs shown options backend retries sql).run [] = (.error error, []))
    ∧ (forall plan, Plan.ofText options sql = .ok plan ->
      IsDisciplined backend retries plan (shown plan)
        ((queryAs shown options backend retries sql).run []).1
        ((queryAs shown options backend retries sql).run []).2) := by
  constructor
  · intro error herror
    rw [queryAs, herror]
    rfl
  · intro plan hplan
    have hrun : (queryAs shown options backend retries sql).run []
        = (((execute backend retries plan).run []).1.map (shown plan),
          ((execute backend retries plan).run []).2) := by
      rw [queryAs, hplan]
      rfl
    rw [hrun]
    exact isDisciplined_execute backend retries plan (shown plan)

/-- Times out twice, and then gives a response that cannot be read. -/
def slowStart : Backend := fun call _ =>
  if call < 2 then .error (.timeout "slow") else .ok .null

theorem leadingErrors_slowStart (request : Request.Search) :
    leadingErrors (fun call => slowStart call request) = 2 := by
  apply le_antisymm
  · exact @leadingErrors_le _ 2 rfl
  · apply @le_leadingErrors _ 2
    intro call hcall
    rw [slowStart, if_pos hcall]
    rfl

theorem queryAs_discipline_slowStart :
    (queryAs (fun plan answer => answer.table plan.columns) {} slowStart 5 " ").run []
        = (.error (.syntactic { position := 0, fault := .emptyQuery }), [])
    ∧ exists plan sent,
      Plan.ofText {} Store.sharedTags.canonicalText = .ok plan
        ∧ (queryAs (fun plan answer => answer.table plan.columns) {} slowStart 5
              Store.sharedTags.canonicalText).run []
            = ((Answer.read plan.request .null).map (fun answer => answer.table plan.columns), sent)
        ∧ sent.length = 3
        ∧ forall request, request ∈ sent -> request = plan.request := by
  constructor
  · exact (queryAs_discipline _ _ _ _ _).left _ rfl
  · obtain ⟨_, plan, _, hplan⟩ :=
      @Store.exists_canonicalPlan {} _ Store.wellFormed_sharedTags (by decide +kernel)
    have h := (queryAs_discipline (fun plan answer => answer.table plan.columns) {} slowStart 5
      Store.sharedTags.canonicalText).right plan hplan
    have hlength := h.calls
    rw [leadingErrors_slowStart] at hlength
    have hthree : ((queryAs (fun plan answer => answer.table plan.columns) {} slowStart 5
        Store.sharedTags.canonicalText).run []).2.length = 3 :=
      Nat.cast_injective (hlength.trans rfl)
    refine ⟨plan, _, hplan, Prod.ext (h.answered .null ?_) rfl, hthree, h.requests⟩
    rw [hthree]
    rfl

end Client
end Rollup

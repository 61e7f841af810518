import IdentifyDataLocks.AcademicYear

/-! The three services behind the learner's names. An API call ends in a value, in null or
in an exception; every service catches whatever is thrown. -/
namespace IdentifyDataLocks

/-- One API call: `none` is a null result. -/
abbrev Outcome (α : Type) := Except Exception (Option α)

namespace Outcome

variable {α β : Type}

/-- The call threw or returned null. -/
def Failed (outcome : Outcome α) : Prop := ∀ a, outcome ≠ .ok (some a)

/-- Member access: a null value throws. -/
def deref (value : Option α) : Except Exception α :=
  match value with
  | some a => .ok a
  | none => .error .nullReference

/-- `try { return body; } catch { return fallback; }` -/
def catchAll (body : Except Exception β) (fallback : β) : β :=
  match body with
  | .ok b => b
  | .error _ => fallback

/-- A failed call ends in the fallback when the body maps null to it. -/
theorem catchAll_of_failed {call : Outcome α} (h : call.Failed)
    {body : Option α → Except Exception β} {fallback : β}
    (hnull : catchAll (body none) fallback = fallback) :
    catchAll (call >>= body) fallback = fallback := by
  cases call with
  | error ex => rfl
  | ok value =>
    cases value with
    | none => exact hnull
    | some a => exact absurd rfl (h a)

end Outcome

open Outcome

structure OrganisationSearchResult where
  ukprn : Int32
  tradingName : Option String
  legalName : Option String

def OrganisationSearchResult.name (result : OrganisationSearchResult) : Option String :=
  result.legalName.or result.tradingName

structure Provider where
  ukprn : Int32
  name : Option String

abbrev IRoatpService := Int64 → Outcome Provider

/-- The register behind `IRoatpService`, reached through a REST client. -/
def RoatpService.getProvider (client : String → Outcome OrganisationSearchResult) :
    IRoatpService := fun ukprn =>
  let getOrganisationDetailsPath := s!"/organisations/{ukprn}"
  .ok (catchAll (do
    let provider ← deref (← client getOrganisationDetailsPath)
    return some { name := provider.name, ukprn := provider.ukprn }) none)

def ProviderService.getProviderName (providerApiClient : IRoatpService) (ukprn : Int64) : String :=
  catchAll (do
    let provider ← providerApiClient ukprn
    return (provider.bind (·.name)).getD "") ""

structure AccountDetailViewModel where
  dasAccountName : Option String
  publicHashedAccountId : Option String

abbrev IAccountApiClient := Int64 → Outcome AccountDetailViewModel

/-- The name and the public id; a null account throws and is caught. -/
def EmployerService.getEmployerName (accountApiClient : IAccountApiClient) (accountId : Int64) :
    Option String × Option String :=
  catchAll (do
    let result ← deref (← accountApiClient accountId)
    return (result.dasAccountName, result.publicHashedAccountId)) (some "", some "")

structure GetApprenticeshipsRequest where
  accountId : Int64
  searchTerm : String

structure ApprenticeshipDetailsResponse where
  firstName : Option String
  lastName : Option String

/-- Null interpolates to the empty string. -/
def ApprenticeshipDetailsResponse.name (a : ApprenticeshipDetailsResponse) : String :=
  a.firstName.getD "" ++ " " ++ a.lastName.getD ""

/-- The list itself can be null, and so can its elements. -/
structure GetApprenticeshipsResponse where
  apprenticeships : Option (List (Option ApprenticeshipDetailsResponse))

abbrev ICommitmentsApiClient := GetApprenticeshipsRequest → Outcome GetApprenticeshipsResponse

def CommitmentsService.getApprenticesName (commitmentsApiClient : ICommitmentsApiClient)
    (uln : String) (accountId : Int64) : String :=
  catchAll (do
    let request : GetApprenticeshipsRequest := { accountId := accountId, searchTerm := uln }
    let result ← commitmentsApiClient request
    let apprenticeship :=
      ((result.bind (·.apprenticeships)).bind (·.head?)).join
    match apprenticeship with
    | none => return ""
    | some a => return a.name) ""

theorem RoatpService.getProvider_failed {client : String → Outcome OrganisationSearchResult}
    {ukprn : Int64} (h : Failed (client s!"/organisations/{ukprn}")) :
    RoatpService.getProvider client ukprn = .ok none :=
  congrArg Except.ok (catchAll_of_failed h rfl)

theorem ProviderService.getProviderName_failed {client : IRoatpService} {ukprn : Int64}
    (h : Failed (client ukprn)) : getProviderName client ukprn = "" := catchAll_of_failed h rfl

theorem EmployerService.getEmployerName_failed {client : IAccountApiClient} {accountId : Int64}
    (h : Failed (client accountId)) : getEmployerName client accountId = (some "", some "") :=
  catchAll_of_failed h rfl

theorem CommitmentsService.getApprenticesName_failed {client : ICommitmentsApiClient}
    {uln : String} {accountId : Int64}
    (h : Failed (client { accountId := accountId, searchTerm := uln })) :
    getApprenticesName client uln accountId = "" := catchAll_of_failed h rfl

end IdentifyDataLocks

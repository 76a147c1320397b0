/-! The outcomes of driver operations, with their wording and the numbers callers know them by. -/

namespace CecBus

/-- Why a driver operation fails. -/
inductive DriverError where
  | notOpened
  | alreadyOpen
  | invalidHandle
  | invalidArgument
  | sentFailed
  | alreadyRemoved
  | notAdded
  | generalError
  | addressUnavailable
  | notSupported
  deriving DecidableEq, Repr

namespace DriverError

def all : List DriverError := [notOpened, alreadyOpen, invalidHandle, invalidArgument, sentFailed,
  alreadyRemoved, notAdded, generalError, addressUnavailable, notSupported]

/-- The wording of an error. -/
def message : DriverError → String
  | notOpened => "not opened"
  | alreadyOpen => "already open"
  | invalidHandle => "invalid handle"
  | invalidArgument => "invalid argument"
  | sentFailed => "sent failed"
  | alreadyRemoved => "logical address already removed"
  | notAdded => "logical address not added"
  | generalError => "general error"
  | addressUnavailable => "logical address unavailable"
  | notSupported => "operation not supported"

/-- The status number of an error. -/
def status : DriverError → Nat
  | sentFailed => 3
  | notOpened => 4
  | invalidArgument => 5
  | addressUnavailable => 6
  | generalError => 7
  | alreadyOpen => 8
  | alreadyRemoved => 9
  | invalidHandle => 11
  | notSupported => 12
  | notAdded => 13

end DriverError

/-- What became of a frame that was sent. -/
inductive Delivery where
  | acknowledged
  | unanswered
  deriving DecidableEq, Repr

def Delivery.all : List Delivery := [acknowledged, unanswered]

def Delivery.status : Delivery → Nat
  | acknowledged => 1
  | unanswered => 2

def Delivery.word : Delivery → String
  | acknowledged => "SentAndAcked"
  | unanswered => "SentButNotAcked"

namespace Status

def success : Nat := 0

/-- The number of an output that is not valid. No operation of the driver answers with it. -/
def invalidOutput : Nat := 10

def ofResult {α : Type} : Except DriverError α → Nat
  | .ok _ => success
  | .error e => e.status

end Status

end CecBus

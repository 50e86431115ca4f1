import StreamBridge.Time.Duration

/-! Options attached to publishing. -/

namespace StreamBridge

/-- One option of a publish call. -/
inductive PublishOption where
  /-- The wait before another attempt. -/
  | retryWait (wait : Duration)
  /-- How many attempts may follow the first. -/
  | retryAttempts (count : Nat)
deriving DecidableEq, Repr

/-- The options of a publish call, in order. -/
structure PublishOptions where
  options : List PublishOption
deriving DecidableEq, Repr, Inhabited

namespace PublishOptions

/-- The wait that an option sets. -/
def waitOf : PublishOption → Option Duration
  | .retryWait wait => some wait
  | .retryAttempts _ => none

/-- The count that an option sets. -/
def countOf : PublishOption → Option Nat
  | .retryWait _ => none
  | .retryAttempts count => some count

/-- The first wait among the options. -/
def retryWait? (options : PublishOptions) : Option Duration := options.options.findSome? waitOf

/-- The first count among the options. -/
def retryAttempts? (options : PublishOptions) : Option Nat := options.options.findSome? countOf

/-- The options of a wait and a count; zero leaves the choice to the broker. -/
def ofSettings (wait : Duration) (attempts : Nat) : PublishOptions :=
  ⟨(if wait.isZero then [] else [.retryWait wait])
    ++ (if attempts = 0 then [] else [.retryAttempts attempts])⟩

end PublishOptions
end StreamBridge

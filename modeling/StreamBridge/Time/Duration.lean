/-! Spans of time. -/

namespace StreamBridge

/-- A span of time. -/
structure Duration where
  nanoseconds : Nat
deriving DecidableEq, Repr, Inhabited

namespace Duration

/-- A span of milliseconds. -/
def ofMilliseconds (count : Nat) : Duration := ⟨count * 1000000⟩

/-- A span of seconds. -/
def ofSeconds (count : Nat) : Duration := ⟨count * 1000000000⟩

/-- The whole milliseconds of a span. -/
def milliseconds (span : Duration) : Nat := span.nanoseconds / 1000000

/-- Whether a span is empty. -/
def isZero (span : Duration) : Bool := span.nanoseconds == 0

instance : Add Duration := ⟨fun first second => ⟨first.nanoseconds + second.nanoseconds⟩⟩

instance : LT Duration := ⟨fun first second => first.nanoseconds < second.nanoseconds⟩

instance (first second : Duration) : Decidable (first < second) :=
  inferInstanceAs (Decidable (first.nanoseconds < second.nanoseconds))

end Duration
end StreamBridge

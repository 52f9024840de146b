/-!
# Transfer options

* `Duration`: a span of time.
* `Options`: how long to wait for a connection and whether to follow redirects.
* `Options.hops`: how many redirects a transfer follows.
* `Options.isUsable`: whether the timeout fits the range that timeouts have. By `isUsable_iff` it
  is the whole seconds that have to.
-/

namespace VectorFetch

/-- A span of time: whole seconds, and the part of a second behind them. -/
structure Duration where
  seconds : UInt64
  nanoseconds : Fin 1000000000
  deriving DecidableEq, Repr

namespace Duration

def ofSeconds (n : UInt64) : Duration := ⟨n, 0⟩

/-- The whole milliseconds. -/
def milliseconds (d : Duration) : Nat := d.seconds.toNat * 1000 + d.nanoseconds / 1000000

end Duration

namespace Http

/-- How a transfer is done. -/
structure Options where
  /-- How long to wait for a connection; without a number there is no end. -/
  connectTimeout : Option Duration
  followRedirects : Bool
  maxRedirections : UInt32
  deriving DecidableEq, Repr

namespace Options

/-- No timeout, and ten redirects. -/
def default : Options := ⟨none, true, 10⟩

/-- The largest number of redirects that is counted. -/
def redirectCap : Nat := 32767

/-- How many redirects a transfer follows. -/
def hops (o : Options) : Nat :=
  if o.followRedirects then min o.maxRedirections.toNat redirectCap else 0

/-- The largest number that a timeout is set to. -/
def timeoutCap : Nat := Nat.pow 2 63 - 1

/-- Whether the timeout is in range. It is set in milliseconds, or else in seconds. -/
def isUsable (o : Options) : Bool :=
  match o.connectTimeout with
  | some timeout => timeout.milliseconds ≤ timeoutCap || timeout.seconds.toNat ≤ timeoutCap
  | none => true

theorem isUsable_iff {o : Options} :
    o.isUsable ↔ ∀ timeout, o.connectTimeout = some timeout →
      timeout.seconds.toNat < Nat.pow 2 63 := by
  have cap : timeoutCap = Nat.pow 2 63 - 1 := rfl
  have positive : 0 < Nat.pow 2 63 := by decide
  unfold isUsable
  split
  next timeout set =>
    rw [set]
    simp only [Duration.milliseconds, cap, Bool.or_eq_true, decide_eq_true_eq,
      Option.some.injEq, forall_eq']
    omega
  next unset => simp [unset]

end Options

end Http

end VectorFetch

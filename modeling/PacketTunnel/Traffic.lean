import PacketTunnel.Decimal.Double
import PacketTunnel.Text.Numeral

/-!
# Traffic

Counters of what went through the network side of a tunnel, and their one-line summary. Amounts of
data are given in units of two to the power twenty bytes with two places: the count is taken in
double precision, divided, and rounded to the nearest hundredth, a half to the even one.
-/

namespace PacketTunnel

open Text Decimal

/-- Traffic since the last start. -/
structure Traffic where
  /-- Bytes in datagrams that were sent. -/
  bytesSent : Nat
  /-- Bytes in datagrams that came in. -/
  bytesReceived : Nat
  /-- Datagrams that were sent. -/
  datagramsSent : Nat
  /-- Datagrams that came in. -/
  datagramsReceived : Nat
  deriving DecidableEq, Repr

namespace Traffic

/-- No traffic. -/
def none : Traffic := ⟨0, 0, 0, 0⟩

/-- Count a datagram that was sent. -/
def sent (t : Traffic) (length : Nat) : Traffic :=
  { t with bytesSent := t.bytesSent + length, datagramsSent := t.datagramsSent + 1 }

/-- Count a datagram that came in. -/
def received (t : Traffic) (length : Nat) : Traffic :=
  { t with bytesReceived := t.bytesReceived + length, datagramsReceived := t.datagramsReceived + 1 }

/-- The bytes in one unit of data. -/
def unitBytes : Nat := 1 <<< 20

/-- Hundredths of a unit in an amount of data. -/
def hundredths (bytes : Nat) : Nat :=
  let (num, den) := ((Double.nearest? bytes 1).getD .zero).ratio
  roundHalfEven (num * 100) (den * unitBytes)

/-- An amount of data with two places. -/
def amountChars (bytes : Nat) : List Char :=
  let n := hundredths bytes
  Numeral.decimal (n / 100) ++ '.' :: Numeral.padded 2 (Numeral.decimal (n % 100))

/-- An amount of data with two places, as a string. -/
def amount (bytes : Nat) : String := String.ofList (amountChars bytes)

/-- The summary. -/
def summary (t : Traffic) : String :=
  s!"TX: {amount t.bytesSent}MB ({t.datagramsSent} datagrams), "
    ++ s!"RX: {amount t.bytesReceived}MB ({t.datagramsReceived} datagrams)"

end Traffic

end PacketTunnel

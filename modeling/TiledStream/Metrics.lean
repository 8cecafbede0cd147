import TiledStream.Number.Shortest

/-! Counters and gauges by tile, and their text exposition. A series exists once it was written or
asked for. -/

namespace TiledStream

abbrev Series (α : Type) := List (Nat × α)

namespace Series

variable {α : Type}

def value? (series : Series α) (label : Nat) : Option α := List.lookup label series

def change (series : Series α) (label : Nat) (initial : α) (update : α → α) : Series α :=
  match series with
  | [] => [(label, update initial)]
  | (first, value) :: rest =>
    if first = label then (first, update value) :: rest
    else (first, value) :: change rest label initial update

end Series

structure Metrics where
  produced : Series Nat
  consumed : Series Nat
  representation : Series Int
  deriving DecidableEq

namespace Metrics

def empty : Metrics := { produced := [], consumed := [], representation := [] }

def frameProduced (metrics : Metrics) (label : Nat) : Metrics :=
  { metrics with produced := metrics.produced.change label 0 (· + 1) }

def frameConsumed (metrics : Metrics) (label : Nat) : Metrics :=
  { metrics with consumed := metrics.consumed.change label 0 (· + 1) }

def representationSelected (metrics : Metrics) (label index : Nat) : Metrics :=
  let stored := (index : Int).bmod (2 ^ 64)
  { metrics with representation := metrics.representation.change label 0 fun _ => stored }

def readProduced (metrics : Metrics) (label : Nat) : Nat × Metrics :=
  ((metrics.produced.value? label).getD 0,
    { metrics with produced := metrics.produced.change label 0 id })

def readConsumed (metrics : Metrics) (label : Nat) : Nat × Metrics :=
  ((metrics.consumed.value? label).getD 0,
    { metrics with consumed := metrics.consumed.change label 0 id })

def valueText (value : Int) : String :=
  let magnitude := match Number.shortest (Number.Binary64.ofNat value.natAbs) with
    | some decimal => decimal.text
    | none => []
  String.ofList (if value < 0 then '-' :: magnitude else magnitude)

structure Family where
  name : String
  help : String
  kind : String
  values : Series Int

def Family.lines (family : Family) : List String :=
  let labelled := family.values.map fun entry => (toString entry.1, entry.2)
  let sorted := labelled.mergeSort fun left right => decide (left.1 ≤ right.1)
  sorted.map fun entry => family.name ++ "\x7btile=\"" ++ entry.1 ++ "\"\x7d " ++ valueText entry.2

def Family.text (family : Family) : String :=
  let lines := [
      "# HELP " ++ family.name ++ " " ++ family.help,
      "# TYPE " ++ family.name ++ " " ++ family.kind] ++ family.lines
  String.join (lines.map (· ++ "\n"))

def families (metrics : Metrics) : List Family :=
  let counters (series : Series Nat) : Series Int :=
    series.map fun entry => (entry.1, (entry.2 : Int))
  let all : List Family := [
    { name := "tile_frames_consumed_total"
      help := "Total number of frames consumed per tile"
      kind := "counter"
      values := counters metrics.consumed },
    { name := "tile_frames_produced_total"
      help := "Total number of decoded frames queued per tile"
      kind := "counter"
      values := counters metrics.produced },
    { name := "tile_representation_index"
      help := "Representation index of the last requested segment"
      kind := "gauge"
      values := metrics.representation }]
  all.filter fun family => !family.values.isEmpty

def text (metrics : Metrics) : String := String.join (metrics.families.map Family.text)

end Metrics

end TiledStream

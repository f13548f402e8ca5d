import QrSymbol.Symbol

/-!
# The journal of an encoding

An encoding can be followed step by step.  Every step that succeeds leaves a
record, in the order of the steps (`journal`), so the journal of an encoding
that stops ends with the last step before the error.  A record has a severity
and a line of text.
-/

namespace QrSymbol

/-- How much a record matters. -/
inductive Severity where
  /-- A decision. -/
  | debug
  /-- A detail of a step. -/
  | trace
deriving DecidableEq, Repr

/-- The word for a severity. -/
def Severity.name : Severity → String
  | .debug => "DEBUG"
  | .trace => "TRACE"

/-- What a step of an encoding leaves behind. -/
inductive Record where
  /-- The mode is settled. -/
  | modeSettled (length : Nat) (mode : Mode)
  /-- The version is settled, with its capacity. -/
  | versionSettled (plan : BlockPlan) (length : Nat) (mode : Mode) (capacity : Nat)
  /-- The data stream is written, `used` bits without its padding. -/
  | dataWritten (plan : BlockPlan) (used padded : Nat)
  /-- The blocks are interleaved. -/
  | interleaved (blocks codewords correctionPerBlock : Nat)
  /-- A mask is tried. -/
  | maskTried (mask : Mask) (penalty : Penalty)
  /-- The mask is settled. -/
  | maskSettled (plan : BlockPlan) (mask : Mask) (total : Nat)
deriving DecidableEq, Repr

namespace Record

/-- The severity of a record. -/
def severity : Record → Severity
  | .modeSettled .. | .versionSettled .. | .maskSettled .. => .debug
  | .dataWritten .. | .interleaved .. | .maskTried .. => .trace

/-- The text of a record. -/
def text : Record → String
  | .modeSettled length mode => s!"encoding {length} chars in {mode.name} mode"
  | .versionSettled plan length mode capacity =>
      s!"selected version {plan.version.number} for {length} {mode.name} chars at level " ++
        s!"{plan.level.name} (capacity {capacity})"
  | .dataWritten plan used padded =>
      s!"bitstream: {used} payload bits, {padded} after padding " ++
        s!"(v{plan.version.number} {plan.level.name})"
  | .interleaved blocks codewords correctionPerBlock =>
      s!"interleaved {blocks} blocks into {codewords} codewords " ++
        s!"({correctionPerBlock} EC per block)"
  | .maskTried mask penalty =>
      s!"mask {mask.id.val}: penalty {penalty.total} (rule1 {penalty.runs}, " ++
        s!"rule2 {penalty.blocks}, rule3 {penalty.finders}, rule4 {penalty.balance})"
  | .maskSettled plan mask total =>
      s!"version {plan.version.number} level {plan.level.name} mask {mask.id.val} " ++
        s!"(penalty {total})"

/-- The line of a record: its severity and its text. -/
def line (r : Record) : String := r.severity.name ++ " " ++ r.text

end Record

/-- The trials that the choice of a mask looks at. -/
def triedMasks (unmasked : Grid) (forced : Option Mask) : List MaskTrial :=
  match forced with
  | some mask => [.ofMask unmasked mask]
  | none => MaskTrial.all unmasked

/-- The records of the choice of a mask. -/
def maskRecords (plan : BlockPlan) (unmasked : Grid) (forced : Option Mask) : List Record :=
  let winner := chooseMask unmasked forced
  (triedMasks unmasked forced).map (fun c => .maskTried c.mask c.penalty)
    ++ [.maskSettled plan winner.mask winner.penalty.total]

/-- The records from the data codewords on. -/
def codewordRecords (plan : BlockPlan) (data : List UInt8) (forced : Option Mask) : List Record :=
  match plan.symbolCodewords data with
  | .error _ => []
  | .ok codewords =>
      .interleaved plan.blockCount codewords.length plan.correctionPerBlock ::
        match plan.symbolBits data >>= unmaskedGrid plan.version with
        | .error _ => []
        | .ok unmasked => maskRecords plan unmasked forced

/-- The records from the choice of a version on. -/
def planRecords (characters : List Char) (mode : Mode) (plan : BlockPlan)
    (forced : Option Mask) : List Record :=
  .versionSettled plan characters.length mode (plan.version.capacity plan.level mode) ::
    match segmentBits characters mode plan.version, dataStream characters mode plan with
    | .ok segment, .ok data =>
        .dataWritten plan segment.length plan.dataBits :: codewordRecords plan data forced
    | _, _ => []

/-- The records of an encoding. -/
def journal (text : String) (options : Options) : List Record :=
  let characters := text.toList
  match chooseMode characters options.mode with
  | .error _ => []
  | .ok mode =>
      .modeSettled characters.length mode ::
        match choosePlan characters.length mode options.level options.minVersion with
        | .error _ => []
        | .ok plan => planRecords characters mode plan options.mask

end QrSymbol

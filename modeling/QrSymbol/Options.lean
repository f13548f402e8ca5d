import QrSymbol.EncodeError
import QrSymbol.Mask
import QrSymbol.Version

/-!
# Encoding options

What a caller may fix before an encoding.  Only the level always has a value;
the rest is left to the encoder unless it is given.  Numbers and letters from
outside are checked when they are set, so an `Options` never holds a bad one.
-/

namespace QrSymbol

/-- The version of a number, or the error that there is none. -/
def Version.ofNat (n : Nat) : Except EncodeError Version :=
  match Version.ofNat? n with
  | some v => .ok v
  | none => .error (.invalidVersion n)

/-- The mask of a number, or the error that there is none. -/
def Mask.ofNat (n : Nat) : Except EncodeError Mask :=
  match Mask.ofNat? n with
  | some m => .ok m
  | none => .error (.invalidMask n)

/-- The level a letter names, or the error that it names none. -/
def Level.ofLetter (c : Char) : Except EncodeError Level :=
  match Level.ofLetter? c with
  | some l => .ok l
  | none => .error (.invalidLevel c)

/-- The choices of a caller. -/
structure Options where
  /-- The mode to use.  It must be at least as broad as the text needs. -/
  mode : Option Mode := none
  /-- The error correction level. -/
  level : Level := .quartile
  /-- The smallest version to use. -/
  minVersion : Option Version := none
  /-- The mask to use, instead of the one with the least penalty. -/
  mask : Option Mask := none
deriving DecidableEq, Repr

namespace Options

/-- The options with a mode fixed. -/
def withMode (o : Options) (mode : Mode) : Options := { o with mode := some mode }

/-- The options at another level. -/
def withLevel (o : Options) (level : Level) : Options := { o with level := level }

/-- The options with a smallest version, if there is such a version. -/
def withMinVersion (o : Options) (number : Nat) : Except EncodeError Options :=
  (Version.ofNat number).map fun v => { o with minVersion := some v }

/-- The options with a mask fixed, if there is such a mask. -/
def withMask (o : Options) (id : Nat) : Except EncodeError Options :=
  (Mask.ofNat id).map fun m => { o with mask := some m }

end Options

end QrSymbol

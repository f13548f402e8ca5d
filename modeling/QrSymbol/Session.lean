import QrSymbol.Album
import QrSymbol.Symbol

/-!
# Sessions

A session encodes texts under one set of options and collects pictures of their
symbols in an album.  Each request has an answer and leaves an album
(`respond`).  A request that fails leaves the album as it was: a text that
cannot be encoded never reaches it, and a closed album keeps the pictures it
has.
-/

namespace QrSymbol

/-- A reason why a request fails. -/
inductive SessionError where
  /-- The text cannot be encoded. -/
  | encoding (cause : EncodeError)
  /-- The album refuses. -/
  | album (cause : AlbumError)
deriving DecidableEq, Repr

/-- The text of an error, that of its cause. -/
def SessionError.message : SessionError → String
  | .encoding cause => cause.message
  | .album cause => cause.message

/-- What a session is asked to do. -/
inductive Request where
  /-- Encode a text. -/
  | encode (text : String)
  /-- Encode a text and write its symbol to the album. -/
  | encodeTo (text : String)
  /-- Write a grid to the album. -/
  | write (grid : Grid)
  /-- Close the album. -/
  | close

/-- An answer: the symbol that was asked for, if one was. -/
abbrev Response := Except SessionError (Option Symbol)

/-- The answer for an album that changes or refuses to. -/
def settle (album : Album) (change : Except AlbumError Album) (symbol : Option Symbol) :
    Response × Album :=
  match change with
  | .error cause => (.error (.album cause), album)
  | .ok album => (.ok symbol, album)

/-- The answer to a request and the album it leaves. -/
def respond (options : Options) (album : Album) : Request → Response × Album
  | .encode text =>
      match encode text options with
      | .error cause => (.error (.encoding cause), album)
      | .ok symbol => (.ok (some symbol), album)
  | .encodeTo text =>
      match encode text options with
      | .error cause => (.error (.encoding cause), album)
      | .ok symbol => settle album (album.write symbol.grid) (some symbol)
  | .write grid => settle album (album.write grid) none
  | .close => settle album album.close none

/-- The album that a sequence of requests leaves. -/
def albumAfter (options : Options) (album : Album) (requests : List Request) : Album :=
  requests.foldl (fun album request => (respond options album request).2) album

theorem settle_error (album : Album) (cause : AlbumError) (symbol? : Option Symbol) :
    settle album (.error cause) symbol? = (.error (.album cause), album) := rfl

theorem settle_ok (album changed : Album) (symbol? : Option Symbol) :
    settle album (.ok changed) symbol? = (.ok symbol?, changed) := rfl

section

variable {options : Options} {text : String}

theorem respond_encode_of_error {e : EncodeError} (h : encode text options = .error e)
    (album : Album) : respond options album (.encode text) = (.error (.encoding e), album) := by
  rw [respond, h]

theorem respond_encode_of_ok {symbol : Symbol} (h : encode text options = .ok symbol)
    (album : Album) : respond options album (.encode text) = (.ok (some symbol), album) := by
  rw [respond, h]

/-- A text that cannot be encoded is refused before it reaches the album. -/
theorem respond_encodeTo_of_error {e : EncodeError} (h : encode text options = .error e)
    (album : Album) : respond options album (.encodeTo text) = (.error (.encoding e), album) := by
  rw [respond, h]

theorem respond_encodeTo_of_ok {symbol : Symbol} (h : encode text options = .ok symbol)
    (album : Album) : respond options album (.encodeTo text)
      = settle album (album.write symbol.grid) (some symbol) := by
  rw [respond, h]

theorem respond_write (options : Options) (album : Album) (grid : Grid) :
    respond options album (.write grid) = settle album (album.write grid) none := rfl

theorem respond_close (options : Options) (album : Album) :
    respond options album .close = settle album album.close none := rfl

end

/-- A request that fails leaves the album as it was. -/
theorem respond_of_error {options : Options} {album : Album} {request : Request}
    {cause : SessionError} (h : (respond options album request).1 = .error cause) :
    (respond options album request).2 = album := by
  have settled {change : Except AlbumError Album} {symbol : Option Symbol}
      (h : (settle album change symbol).1 = .error cause) :
      (settle album change symbol).2 = album := by
    cases change with
    | error => rfl
    | ok => cases h
  cases request with
  | encode text =>
      simp only [respond]
      split <;> rfl
  | encodeTo text =>
      simp only [respond] at h ⊢
      split at h
      · rfl
      · exact settled h
  | write grid => exact settled h
  | close => exact settled h

end QrSymbol

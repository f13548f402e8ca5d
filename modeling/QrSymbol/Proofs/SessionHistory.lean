import QrSymbol.Session

/-!
# What a session leaves

A session may ask for anything in any order.  Few of its requests reach the album: those
that bring a grid (`Request.grid?`) and those that close it.  A text that cannot be
encoded brings none, and after the first close the album refuses whatever reaches it.

There are three kinds of requests (`respond_cases`), and what one request does to an open
album and to a closed one follows from it.  The album that any number of requests leaves
follows by induction (`albumAfter_of_open`, `albumAfter_of_closed`).  So the requests of a
session settle its album and how it answers from then on (`hasServed_albumAfter`).
-/

namespace QrSymbol

/-! ## Requests -/

namespace Request

/-- The grid that a request brings to the album, if it brings one. -/
def grid? (options : Options) : Request → Option Grid
  | .encodeTo text => (QrSymbol.encode text options).toOption.map Symbol.grid
  | .write grid => some grid
  | .encode _ | .close => none

/-- Whether a request is to close the album. -/
def closes : Request → Bool
  | .close => true
  | .encode _ | .encodeTo _ | .write _ => false

/-- Whether a request reaches the album, with a grid or to close it. -/
def Reaches (options : Options) (request : Request) : Prop :=
  (request.grid? options).isSome ∨ request = .close

theorem eq_close {request : Request} (h : request.closes = true) : request = .close := by
  cases request with
  | close => rfl
  | _ => cases h

theorem any_closes_iff {requests : List Request} :
    requests.any closes = true ↔ .close ∈ requests := by
  rw [List.any_eq_true]
  constructor
  · rintro ⟨request, hmem, hcloses⟩
    rwa [← eq_close hcloses]
  · exact fun hmem => ⟨.close, hmem, rfl⟩

end Request

/-- The grids that requests bring to an album before one of them closes it, in order. -/
def gridsBeforeClose (options : Options) (requests : List Request) : List Grid :=
  (requests.takeWhile fun request => !request.closes).filterMap (Request.grid? options)

/-! ## One request -/

/-- A request brings a grid, or it is to close the album, or it passes the album by. -/
theorem respond_cases (options : Options) (request : Request) :
    (∃ g symbol?, request.grid? options = some g ∧ request.closes = false ∧
      ∀ album, respond options album request = settle album (album.write g) symbol?) ∨
    request = .close ∨
    (request.grid? options = none ∧ request.closes = false ∧
      ∀ album, (respond options album request).2 = album) := by
  cases request with
  | encode text =>
      refine .inr (.inr ⟨rfl, rfl, fun album => ?_⟩)
      cases h : encode text options with
      | error e => rw [respond_encode_of_error h]
      | ok symbol => rw [respond_encode_of_ok h]
  | encodeTo text =>
      cases h : encode text options with
      | error e =>
          refine .inr (.inr ⟨?_, rfl, fun album => ?_⟩)
          · rw [Request.grid?, h]
            rfl
          · rw [respond_encodeTo_of_error h]
      | ok symbol =>
          refine .inl ⟨symbol.grid, some symbol, ?_, rfl, respond_encodeTo_of_ok h⟩
          rw [Request.grid?, h]
          rfl
  | write grid =>
      exact .inl ⟨grid, none, rfl, rfl, fun album => respond_write options album grid⟩
  | close => exact .inr (.inl rfl)

/-- A request that reaches the album brings a grid or is to close it. -/
theorem Request.Reaches.cases {options : Options} {request : Request}
    (h : request.Reaches options) :
    (∃ g symbol?, ∀ album, respond options album request = settle album (album.write g) symbol?) ∨
    request = .close := by
  obtain ⟨g, symbol?, -, -, hrespond⟩ | hclose | ⟨hgrid, hcloses, -⟩ :=
    respond_cases options request
  · exact .inl ⟨g, symbol?, hrespond⟩
  · exact .inr hclose
  · rcases h with hsome | rfl
    · rw [hgrid] at hsome
      cases hsome
    · cases hcloses

section

variable {options : Options} {album : Album} {request : Request} {requests : List Request}

/-- An open album takes the picture of the grid that a request brings, or it is closed. -/
theorem respond_snd_of_open (h : album.closed = false) :
    (respond options album request).2 = { album with
      pictures := album.pictures
        ++ (request.grid? options).toList.map (Raster.ofGrid · album.scale album.quietZone)
      closed := request.closes } := by
  obtain ⟨g, symbol?, hgrid, hcloses, hrespond⟩ | rfl | ⟨hgrid, hcloses, hsame⟩ :=
    respond_cases options request
  · rw [hrespond, album.write_of_open h, hgrid, hcloses, ← h]
    rfl
  · rw [respond_close, album.close_of_open h, Request.grid?, Option.toList_none, List.map_nil,
      List.append_nil]
    rfl
  · rw [hsame, hgrid, hcloses, Option.toList_none, List.map_nil, List.append_nil, ← h]

/-- A closed album stays as it is. -/
theorem respond_snd_of_closed (h : album.closed = true) :
    (respond options album request).2 = album := by
  obtain ⟨g, symbol?, -, -, hrespond⟩ | rfl | ⟨-, -, hsame⟩ := respond_cases options request
  · rw [hrespond, album.write_of_closed h, settle_error]
  · rw [respond_close, album.close_of_closed h, settle_error]
  · exact hsame album

/-- An open album refuses nothing. -/
theorem exists_respond_eq_ok (h : album.closed = false) (hreaches : request.Reaches options) :
    ∃ symbol?, (respond options album request).1 = .ok symbol? := by
  obtain ⟨g, symbol?, hrespond⟩ | rfl := hreaches.cases
  · exact ⟨symbol?, by rw [hrespond, album.write_of_open h, settle_ok]⟩
  · exact ⟨none, by rw [respond_close, album.close_of_open h, settle_ok]⟩

/-- A closed album refuses whatever reaches it. -/
theorem respond_eq_closed (h : album.closed = true) (hreaches : request.Reaches options) :
    respond options album request = (.error (.album .closed), album) := by
  obtain ⟨g, symbol?, hrespond⟩ | rfl := hreaches.cases
  · rw [hrespond, album.write_of_closed h, settle_error]
  · rw [respond_close, album.close_of_closed h, settle_error]

/-- The symbol that is answered with is the one that is encoded. -/
theorem encode_eq_ok_of_respond {text : String} {symbol? : Option Symbol}
    (h : (respond options album (.encodeTo text)).1 = .ok symbol?) :
    ∃ symbol, symbol? = some symbol ∧ encode text options = .ok symbol := by
  cases hencode : encode text options with
  | error e =>
      rw [respond_encodeTo_of_error hencode] at h
      cases h
  | ok symbol =>
      refine ⟨symbol, ?_, rfl⟩
      rw [respond_encodeTo_of_ok hencode] at h
      cases hchange : album.write symbol.grid with
      | error cause =>
          rw [hchange, settle_error] at h
          cases h
      | ok changed =>
          rw [hchange, settle_ok] at h
          exact (Except.ok.inj h).symm

/-! ## Any number of requests -/

theorem albumAfter_cons : albumAfter options album (request :: requests)
    = albumAfter options (respond options album request).2 requests := rfl

/-- A closed album stays as it is, whatever is asked for. -/
theorem albumAfter_of_closed (h : album.closed = true) :
    albumAfter options album requests = album := by
  induction requests with
  | nil => rfl
  | cons request requests ih => rw [albumAfter_cons, respond_snd_of_closed h, ih]

theorem gridsBeforeClose_close : gridsBeforeClose options (.close :: requests) = [] := rfl

theorem gridsBeforeClose_cons (h : request.closes = false) :
    gridsBeforeClose options (request :: requests)
      = (request.grid? options).toList ++ gridsBeforeClose options requests := by
  rw [gridsBeforeClose, List.takeWhile_cons_of_pos (by rw [h]; rfl), gridsBeforeClose]
  cases hgrid : request.grid? options with
  | none => exact List.filterMap_cons_none hgrid
  | some g => exact List.filterMap_cons_some hgrid

/-- An open album takes the pictures of the grids before the first close, and closes then. -/
theorem albumAfter_of_open (h : album.closed = false) :
    albumAfter options album requests = { album with
      pictures := album.pictures ++ (gridsBeforeClose options requests).map
        (Raster.ofGrid · album.scale album.quietZone)
      closed := requests.any Request.closes } := by
  induction requests generalizing album with
  | nil =>
      rw [gridsBeforeClose, List.takeWhile_nil, List.filterMap_nil, List.map_nil, List.append_nil,
        List.any_nil, ← h]
      rfl
  | cons request requests ih =>
      rw [albumAfter_cons, respond_snd_of_open h, List.any_cons]
      cases hcloses : request.closes with
      | true =>
          obtain rfl := Request.eq_close hcloses
          rw [albumAfter_of_closed rfl, gridsBeforeClose_close]
          rfl
      | false =>
          rw [ih rfl, gridsBeforeClose_cons hcloses, List.map_append, List.append_assoc,
            Bool.false_or]

end

/-! ## A session from its beginning -/

/-- An album with nothing in it. -/
def Album.blank (scale quietZone : Nat) : Album :=
  (Album.withScale {} scale).withQuietZone quietZone

/-- What a session leaves of a blank album, and how the session goes on. -/
structure Album.HasServed (album : Album) (options : Options) (scale quietZone : Nat)
    (requests : List Request) : Prop where
  /-- The pictures are those of the grids before the first close, in order. -/
  pictures_eq : album.pictures = (gridsBeforeClose options requests).map
    (Raster.ofGrid · (max scale 1) quietZone)
  /-- A text that cannot be encoded is refused for that reason, and the album stays as it is. -/
  respond_unencodable : ∀ {text : String} {e : EncodeError}, encode text options = .error e →
    respond options album (.encodeTo text) = (.error (.encoding e), album)
  /-- Before a close nothing else is refused. -/
  respond_open : .close ∉ requests → ∀ {request : Request}, request.Reaches options →
    ∃ symbol?, (respond options album request).1 = .ok symbol?
  /-- After a close all that reaches the album is refused, and the album stays as it is. -/
  respond_closed : .close ∈ requests → ∀ {request : Request}, request.Reaches options →
    respond options album request = (.error (.album .closed), album)
  /-- The symbol of a text that was written is the one that the text has without the album. -/
  encode_eq : ∀ {text : String} {symbol? : Option Symbol},
    (respond options album (.encodeTo text)).1 = .ok symbol? →
      ∃ symbol, symbol? = some symbol ∧ encode text options = .ok symbol ∧
        respond options album (.encode text) = (.ok (some symbol), album)

/-- Any requests leave an album with the pictures of the grids before the first close. -/
theorem hasServed_albumAfter (options : Options) (scale quietZone : Nat)
    (requests : List Request) :
    (albumAfter options (Album.blank scale quietZone) requests).HasServed options scale quietZone
      requests := by
  have hclosed : (albumAfter options (Album.blank scale quietZone) requests).closed
      = requests.any Request.closes := by rw [albumAfter_of_open rfl]
  exact {
    pictures_eq := by
      rw [albumAfter_of_open rfl]
      rfl
    respond_unencodable := fun h => respond_encodeTo_of_error h _
    respond_open := by
      intro hclose request hreaches
      refine exists_respond_eq_ok ?_ hreaches
      rw [hclosed, Bool.eq_false_iff]
      exact fun hany => hclose (Request.any_closes_iff.mp hany)
    respond_closed := by
      intro hclose request hreaches
      refine respond_eq_closed ?_ hreaches
      rw [hclosed]
      exact Request.any_closes_iff.mpr hclose
    encode_eq := by
      intro text symbol? hrespond
      obtain ⟨symbol, hsymbol, hencode⟩ := encode_eq_ok_of_respond hrespond
      exact ⟨symbol, hsymbol, hencode, respond_encode_of_ok hencode _⟩ }

end QrSymbol

import Linkly.ChatService
import Linkly.CoupleInfo
import Linkly.EventService
import Linkly.GalleryPages
import Linkly.KeyedRows
import Linkly.RouteCaching

/-!
The operations that are scoped to a couple, over one set of tables. Each request runs to its end
before the next one starts. The ids of chat rows are the texts of the ids that the other tables have.
-/
namespace CoupleRequests
open JsText IsoDate LocalDate CoupleStore

variable {Num Value : Type}

/-- The coordinates of a user's home. -/
structure Home (Num : Type) where
  lat : Option Num
  lng : Option Num
  deriving DecidableEq, Repr

/-- What an analysis reads and writes besides the rows of the couple. -/
structure Caches where
  routeCaches : List EventService.RouteCache
  redis : List JsString
  deriving DecidableEq, Repr

/-- The tables of the schema, with the columns `homeLat` and `homeLng` of the users and `createdAt`
    of the photos as functions of the row ids, and the upload directory. -/
structure World (Num : Type) where
  tables : CoupleStore.Store
  home : Nat → Home Num
  events : List (EventService.CalendarEvent Num)
  photos : List Gallery.GalleryPhoto
  photoCreatedAt : Nat → Int
  messages : List ChatService.ChatMessage
  queue : List ChatService.ChatFanoutJob
  caches : Caches
  uploadDir : Gallery.FileName → Option Gallery.Bytes
  received : List (Nat × Gallery.Bytes)
  nextPhotoId : Nat

def idText (id : Nat) : JsString := SettingText.numberText id

namespace World
variable (w : World Num)

def chatStore : ChatService.Store where
  members := w.tables.members.map fun m => ⟨idText m.coupleId, idText m.userId⟩
  messages := w.messages
  queue := w.queue

def eventStore : EventService.Store Num where
  members := w.tables.members.map fun m => ⟨m.coupleId, m.userId⟩
  events := w.events
  routeCaches := w.caches.routeCaches
  redis := w.caches.redis

def galleryStore : Gallery.Store where
  members := w.tables.members.map fun m => ⟨m.coupleId, m.userId⟩
  photos := w.photos
  uploadDir := w.uploadDir
  received := w.received
  nextId := w.nextPhotoId

def withChat (s : ChatService.Store) : World Num :=
  { w with messages := s.messages, queue := s.queue }

def withEvents (s : EventService.Store Num) : World Num :=
  { w with events := s.events, caches := ⟨s.routeCaches, s.redis⟩ }

def withGallery (s : Gallery.Store) : World Num :=
  { w with photos := s.photos, uploadDir := s.uploadDir, received := s.received
           nextPhotoId := s.nextId }

end World

inductive RouteException where
  | notFound (message : String)
  | badRequest (message : String)
  | failed
  deriving DecidableEq, Repr

inductive Exception where
  | chat (error : ChatService.Exception)
  | event (error : EventService.Exception)
  | gallery (error : GalleryPages.Exception)
  | couple (error : CoupleService.Exception)
  | route (error : RouteException)
  deriving DecidableEq, Repr

section Analyze
variable (numbers : CoupleRoute.JsNumbers Num Value)
open CoupleRoute RouteCaching

theorem truthy_of_given {numbers : JsNumbers Num Value}
    (a b c d e f : {x : Num // numbers.truthy x = true}) :
    ∀ x ∈ [a.1, b.1, c.1, d.1, e.1, f.1], numbers.truthy x = true := by
  simp [a.2, b.2, c.2, d.2, e.2, f.2]

/-- The checks of analyze, and the values that it goes on with. -/
def analyzeInputs (w : World Num) (eventId userId : Nat) :
    Except RouteException (Inputs numbers) :=
  match w.events.find? (·.id = eventId) with
  | none => .error (.notFound "Event not found")
  | some event =>
    match givenNumber numbers event.placeLat, givenNumber numbers event.placeLng with
    | some placeLat, some placeLng =>
      match event.appointmentAt with
      | none => .error (.badRequest "Event has no appointment time")
      | some appointmentAt =>
        let members := w.tables.members.filter (·.coupleId = event.coupleId)
        match members.find? (·.userId = userId) with
        | none => .error (.badRequest "User is not a member of this couple")
        | some me =>
          let mine := w.home me.userId
          match givenNumber numbers mine.lat, givenNumber numbers mine.lng with
          | some myLat, some myLng =>
            let partners := (members.find? (·.userId ≠ userId)).map fun m => w.home m.userId
            match partners.bind fun home => givenNumber numbers home.lat,
                partners.bind fun home => givenNumber numbers home.lng with
            | some partnerLat, some partnerLng => .ok
                { appointmentAt := appointmentAt
                  myLat := myLat
                  myLng := myLng
                  partnerLat := partnerLat
                  partnerLng := partnerLng
                  placeLat := placeLat
                  placeLng := placeLng
                  truthy := truthy_of_given myLat myLng partnerLat partnerLng placeLat placeLng }
            | _, _ => .error (.badRequest "Partner's home location is not set")
          | _, _ => .error (.badRequest "Your home location is not set")
    | _, _ => .error (.badRequest "Event has no place coordinates")

end Analyze

/-- An analysis that has read its values. -/
structure RouteCall (numbers : CoupleRoute.JsNumbers Num Value) where
  eventId : Nat
  userId : Nat
  forceRefresh : Bool
  inputs : CoupleRoute.Inputs numbers

/-- What the services take from outside. `route` is the part of an analysis that comes after its
    checks: it looks into the caches, asks the transit service, and fills the caches. -/
structure Services (Num Value : Type) where
  server : Host
  cipher : ChatService.Cipher
  platform : Gallery.Platform
  newDate : String → Option Int
  numbers : CoupleRoute.JsNumbers Num Value
  route : RouteCall numbers → Caches →
    Option (CoupleRoute.CoupleRouteResponse Value) × Caches

/-- The requests of one user, whose id is no part of them: the server has it from a token. -/
inductive Request (Num : Type) where
  | createMessage (payload : ChatService.ChatSendDto) (draw : ChatService.Draw)
  | fetchMessages (query : ChatService.ChatFetchQueryDto)
  | createEvent (dto : EventService.CreateEventDto Num) (draw : EventService.Draw)
  | findByMonth (query : EventService.EventQueryDto)
  | findById (id : Nat)
  | updateEvent (id : Nat) (dto : EventService.UpdateEventDto Num) (draw : EventService.Draw)
  | removeEvent (id : Nat) (draw : EventService.Draw)
  | upload (coupleId : Nat) (files : List Gallery.UploadedFile)
  | findPhotos (query : GalleryPages.PhotoQueryDto)
  | removePhoto (photoId : Nat)
  | removePhotos (photoIds : List Nat)
  | findCoupleInfo (coupleId : Nat)
  | updateCouple (coupleId : Nat) (dto : CoupleInfo.UpdateCoupleDto)
      (attempts : CoupleInfo.Statement → CoupleCalls.Attempt)
  | breakUp (coupleId : Nat)
  | analyze (eventId : Nat) (forceRefresh : Bool)

inductive Answer (Num Value : Type) where
  | message (view : ChatService.ChatMessageView)
  | messages (views : List ChatService.ChatMessageView)
  | event (event : EventService.CalendarEvent Num)
  | events (events : List (EventService.CalendarEvent Num))
  | photos (photos : List Gallery.GalleryPhoto)
  | couple (info : CoupleInfo.Info)
  | route (response : CoupleRoute.CoupleRouteResponse Value)
  | done
  deriving DecidableEq, Repr

/-- The rows of the tables that refer to a couple go with it. -/
def deleteCouple (w : World Num) (coupleId : Nat) : Option (World Num) :=
  (w.tables.deleteCouple coupleId).map fun tables =>
    let gone := (w.events.filter (·.coupleId = coupleId)).map EventService.CalendarEvent.id
    { w with
      tables := tables
      events := w.events.filter (·.coupleId ≠ coupleId)
      photos := w.photos.filter (·.coupleId ≠ coupleId)
      messages := w.messages.filter (·.coupleId ≠ idText coupleId)
      caches := { w.caches with
        routeCaches := w.caches.routeCaches.filter (·.eventId ∉ gone) } }

/-- The photo rows are read for their files first. -/
def breakUp (w : World Num) (coupleId userId : Nat) :
    Except CoupleService.Exception (World Num) := do
  CoupleInfo.ensureCoupleMember w.tables coupleId userId
  let photos := w.photos.filter (·.coupleId = coupleId)
  let unlinked := { w with uploadDir := Gallery.unlinkAll w.uploadDir photos }
  match deleteCouple unlinked coupleId with
  | none => throw .database
  | some rest => return rest

section Serve
variable (services : Services Num Value) (w : World Num) (userId : Nat)

/-- The rows that fetchMessages reads, in one of the orders that the database may return. -/
def messageRows (query : ChatService.ChatFetchQueryDto) : List ChatService.ChatMessage :=
  (w.messages.filter query.selects).insertionSort query.ordered

/-- An outcome and the tables after a request: a rejected one leaves the tables as they are. -/
def settle {Error α : Type} (error : Error → Exception) (answer : α → Answer Num Value × World Num)
    (result : Except Error α) : Except Exception (Answer Num Value) × World Num :=
  match result with
  | .error e => (.error (error e), w)
  | .ok value => (.ok (answer value).1, (answer value).2)

def serve : Request Num → Except Exception (Answer Num Value) × World Num
  | .createMessage payload draw =>
    settle w .chat (fun (view, s) => (.message view, w.withChat s))
      (ChatService.createMessage services.cipher w.chatStore
        { payload with senderUserId := some (idText userId) } draw)
  | .fetchMessages query =>
    let query := { query with userId := idText userId }
    settle w .chat (fun views => (.messages views, w))
      (ChatService.fetchMessages services.cipher w.chatStore query (messageRows w query))
  | .createEvent dto draw =>
    settle w .event (fun (s, event) => (.event event, w.withEvents s))
      (EventService.create services.server draw w.eventStore dto userId)
  | .findByMonth query =>
    settle w .event (fun events => (.events events, w))
      (EventService.findByMonth services.server w.eventStore { query with userId := userId })
  | .findById id =>
    settle w .event (fun event => (.event event, w))
      (EventService.findById w.eventStore id userId)
  | .updateEvent id dto draw =>
    settle w .event (fun (s, event) => (.event event, w.withEvents s))
      (EventService.update services.server draw w.eventStore id userId dto)
  | .removeEvent id draw =>
    settle w .event (fun s => (.done, w.withEvents s))
      (EventService.remove draw w.eventStore id userId)
  | .upload coupleId files =>
    settle w (fun e => .gallery (.gallery e))
      (fun s => (.photos (s.photos.drop w.photos.length), w.withGallery s))
      (Gallery.upload services.platform w.galleryStore coupleId userId files)
  | .findPhotos query =>
    settle w .gallery (fun photos => (.photos photos, w))
      (GalleryPages.findMany w.photoCreatedAt w.galleryStore { query with userId := userId })
  | .removePhoto photoId =>
    settle w (fun e => .gallery (.gallery e)) (fun s => (.done, w.withGallery s))
      (Gallery.remove w.galleryStore photoId userId)
  | .removePhotos photoIds =>
    settle w (fun e => .gallery (.gallery e)) (fun s => (.done, w.withGallery s))
      (Gallery.removeBatch w.galleryStore photoIds userId)
  | .findCoupleInfo coupleId =>
    settle w .couple (fun info => (.couple info, w))
      (CoupleInfo.findCoupleInfo w.tables coupleId userId)
  | .updateCouple coupleId dto attempts =>
    -- What is written before a rejected statement stays written.
    let (tables, result) :=
      CoupleInfo.updateCouple services.newDate attempts coupleId userId w.tables dto
    ((result.map Answer.couple).mapError Exception.couple, { w with tables := tables })
  | .breakUp coupleId =>
    settle w .couple (fun rest => (.done, rest)) (breakUp w coupleId userId)
  | .analyze eventId forceRefresh =>
    match analyzeInputs services.numbers w eventId userId with
    | .error error => (.error (.route error), w)
    | .ok inputs =>
      let (response, caches) :=
        services.route ⟨eventId, userId, forceRefresh, inputs⟩ w.caches
      (match response with
        | none => .error (.route .failed)
        | some response => .ok (.route response), { w with caches := caches })

end Serve

end CoupleRequests

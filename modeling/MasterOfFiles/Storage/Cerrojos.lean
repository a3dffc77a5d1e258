import Mathlib.Data.String.Basic
import MasterOfFiles.Storage.Estado

/-!
The mutexes of Storage. An operation is the list of its steps on them, in the order of the
source; which of its branches it takes, and how often it goes through a loop, is part of the
request. A path that returns before the first lock (a NULL name in leer_bloque, a wrong number
of arguments) takes no step and is no request here.
-/
namespace StorageCerrojos
open StorageEstado

/-- The File and the Tag of a request, as any two strings. -/
structure Nombres where
  file : String
  tag : String
  deriving DecidableEq

/-- file_tag_id of get_or_create_file_mutex, and the strings that tag_file compares. -/
def Nombres.clave (f : Nombres) : String := "<" ++ f.file ++ ">:<" ++ f.tag ++ ">"

def Nombres.protegido (f : Nombres) : Bool :=
  stringEqualsIgnoreCase f.file "initial_file" && stringEqualsIgnoreCase f.tag "BASE"

/-- mutex_a and mutex_b of tag_file; file_mutex of the others is the first. -/
inductive Puntero where
  | a
  | b
  deriving DecidableEq

/-- The mutex a call names: a field of t_storage, or where a local pointer points. -/
inductive Cerrojo where
  | dictLocks
  | hashIndex
  | bitmap
  | archivo (p : Puntero)
  deriving DecidableEq

inductive Accion where
  | lock (x : Cerrojo)
  | unlock (x : Cerrojo)
  | obtener (p : Puntero) (clave : String)
  | quitar (clave : String)

def bajo (x : Cerrojo) (cuerpo : List Accion) : List Accion :=
  .lock x :: (cuerpo ++ [.unlock x])

def getOrCreateFileMutex (p : Puntero) (f : Nombres) : List Accion :=
  bajo .dictLocks [.obtener p f.clave]

def removeFileMutex (f : Nombres) : List Accion :=
  bajo .dictLocks [.quitar f.clave]

/-- Sections under mutex_bitmap alone: a search, a change of one bit or persistir_bitmap. -/
def seccionesBitmap (n : Nat) : List Accion :=
  (List.replicate n (bajo .bitmap [])).flatten

def conFileMutex (f : Nombres) (cuerpo : List Accion) : List Accion :=
  getOrCreateFileMutex .a f ++ bajo (.archivo .a) cuerpo

/-- evitar_duplicidad from the lock on, with `n` sections in its loop. -/
def evitarDuplicidad (n : Nat) : List Accion := bajo .hashIndex (seccionesBitmap n)

inductive Solicitud where
  | crearFile (f : Nombres)
  | truncarFile (f : Nombres) (liberados : Nat)
  | tagFile (origen destino : Nombres)
  | leerBloque (f : Nombres)
  | escribirBloque (f : Nombres) (diferenciada : Bool)
  | realizarCommit (f : Nombres) (deduplica : Option Nat) (persiste : Bool)
  | flushArchivo (f : Nombres) (secciones : Nat)
  | eliminarFileTag (f : Nombres) (secciones : Nat) (borrado : Bool)

def ordenTag (origen destino : Nombres) : Nombres × Nombres :=
  if origen.clave < destino.clave then (origen, destino) else (destino, origen)

def tagFile (origen destino : Nombres) : List Accion :=
  if origen.protegido then []
  else
    let orden := ordenTag origen destino
    getOrCreateFileMutex .a orden.1 ++ getOrCreateFileMutex .b orden.2 ++
      bajo (.archivo .a) (bajo (.archivo .b) [])

def eliminarFileTag (f : Nombres) (secciones : Nat) (borrado : Bool) : List Accion :=
  if f.protegido then []
  else conFileMutex f (seccionesBitmap secciones) ++ if borrado then removeFileMutex f else []

def acciones : Solicitud → List Accion
  | .crearFile f | .leerBloque f => conFileMutex f []
  | .truncarFile f liberados => conFileMutex f (seccionesBitmap liberados)
  | .tagFile origen destino => tagFile origen destino
  | .escribirBloque f diferenciada =>
    conFileMutex f (seccionesBitmap (if diferenciada then 1 else 0))
  | .realizarCommit f deduplica persiste =>
    conFileMutex f (deduplica.elim [] evitarDuplicidad ++
      seccionesBitmap (if persiste then 1 else 0))
  | .flushArchivo f secciones => conFileMutex f (seccionesBitmap secciones)
  | .eliminarFileTag f secciones borrado => eliminarFileTag f secciones borrado

/-- A mutex of dict_locks_files is the address that malloc gave it. -/
inductive Mutex where
  | dictLocks
  | hashIndex
  | bitmap
  | archivo (id : Nat)
  deriving DecidableEq

/-- A pointer is kept from get_or_create_file_mutex until the mutex is unlocked. -/
structure Hilo where
  restantes : List Accion
  punteros : Puntero → Option Nat

def Hilo.mutex (h : Hilo) : Cerrojo → Option Mutex
  | .dictLocks => some .dictLocks
  | .hashIndex => some .hashIndex
  | .bitmap => some .bitmap
  | .archivo p => (h.punteros p).map .archivo

/-- dict is dict_locks_files; claves has the key that the mutex at an address was last made for,
    and destruidos the addresses that were freed. The first `usadas` addresses have been given. -/
structure Sistema (Id : Type) where
  dict : String → Option Nat
  claves : Nat → Option String
  usadas : Nat
  destruidos : Nat → Bool
  duenio : Mutex → Option Id
  hilos : Id → Hilo

variable {Id : Type} [DecidableEq Id]

def inicial (solicitudes : Id → List Solicitud) : Sistema Id where
  dict := fun _ => none
  claves := fun _ => none
  usadas := 0
  destruidos := fun _ => false
  duenio := fun _ => none
  hilos := fun i => ⟨(solicitudes i).flatMap acciones, fun _ => none⟩

def Hilo.soltar (h : Hilo) : Cerrojo → Hilo
  | .archivo p => { h with punteros := Function.update h.punteros p none }
  | _ => h

def Sistema.seguir (s : Sistema Id) (i : Id) (h : Hilo) (resto : List Accion) : Sistema Id :=
  { s with hilos := Function.update s.hilos i { h with restantes := resto } }

def Sistema.lock (s : Sistema Id) (i : Id) (x : Cerrojo) (resto : List Accion) : Sistema Id :=
  match (s.hilos i).mutex x with
  | none => s
  | some m =>
    if (s.duenio m).isNone then
      { s.seguir i (s.hilos i) resto with duenio := Function.update s.duenio m (some i) }
    else s

def Sistema.unlock (s : Sistema Id) (i : Id) (x : Cerrojo) (resto : List Accion) : Sistema Id :=
  match (s.hilos i).mutex x with
  | none => s
  | some m =>
    { s.seguir i ((s.hilos i).soltar x) resto with
      duenio := Function.update s.duenio m none }

def Hilo.apuntar (h : Hilo) (p : Puntero) (m : Nat) : Hilo :=
  { h with punteros := Function.update h.punteros p (some m) }

/-- What malloc answers: the address of a mutex that was freed, or one never given before. -/
def Sistema.direccion (malloc : Sistema Id → Nat) (s : Sistema Id) : Nat :=
  if s.destruidos (malloc s) then malloc s else s.usadas

/-- pthread_mutex_init at the address m, and dictionary_put. -/
def Sistema.crearMutex (s : Sistema Id) (clave : String) (m : Nat) : Sistema Id :=
  { s with
    dict := Function.update s.dict clave (some m)
    claves := Function.update s.claves m (some clave)
    usadas := max s.usadas (m + 1)
    destruidos := Function.update s.destruidos m false
    duenio := Function.update s.duenio (.archivo m) none }

def Sistema.obtener (malloc : Sistema Id → Nat) (s : Sistema Id) (i : Id) (p : Puntero)
    (clave : String) (resto : List Accion) : Sistema Id :=
  match s.dict clave with
  | some m => s.seguir i ((s.hilos i).apuntar p m) resto
  | none =>
    let m := s.direccion malloc
    (s.crearMutex clave m).seguir i ((s.hilos i).apuntar p m) resto

/-- dictionary_remove, pthread_mutex_destroy of what it returns and free. -/
def Sistema.quitar (s : Sistema Id) (i : Id) (clave : String) (resto : List Accion) :
    Sistema Id :=
  match s.dict clave with
  | none => s.seguir i (s.hilos i) resto
  | some m =>
    { s.seguir i (s.hilos i) resto with
      dict := Function.update s.dict clave none
      destruidos := Function.update s.destruidos m true }

/-- One step of thread i, which stays where it is while the mutex it asks for is taken. -/
def avanzar (malloc : Sistema Id → Nat) (s : Sistema Id) (i : Id) : Sistema Id :=
  match (s.hilos i).restantes with
  | [] => s
  | .lock x :: resto => s.lock i x resto
  | .unlock x :: resto => s.unlock i x resto
  | .obtener p clave :: resto => s.obtener malloc i p clave resto
  | .quitar clave :: resto => s.quitar i clave resto

def Pide (s : Sistema Id) (i : Id) (m : Mutex) : Prop :=
  ∃ x resto, (s.hilos i).restantes = .lock x :: resto ∧ (s.hilos i).mutex x = some m

def Tiene (s : Sistema Id) (i : Id) (m : Mutex) : Prop := s.duenio m = some i

end StorageCerrojos

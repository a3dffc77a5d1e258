import MasterOfFiles.Storage.Volcados
import MasterOfFiles.Worker.Recorridos

/-!
The execute functions of query_interpreter.c on the memory of one Worker and the Storage
behind its socket. Only WRITE, READ, FLUSH and COMMIT look at the pages. decode takes any int for
offsets and sizes; here no offset is negative, nor the size of a TRUNCATE.
-/
namespace WorkerEjecucion
open StorageEstado StorageEscritura StoragePedidos StorageVolcados
open WorkerMemoria WorkerPaginas WorkerReemplazo WorkerCoherencia WorkerAccesos WorkerRecorridos

inductive Instruccion where
  | create (f : Archivo)
  | truncate (f : Archivo) (tamanio : Nat)
  | write (f : Archivo) (direccionBase : Nat) (contenido : Bytes)
  | read (f : Archivo) (direccionBase : Nat) (tamanio : Int)
  | tag (origen destino : Archivo)
  | commit (f : Archivo)
  | flush (f : Archivo)
  | delete (f : Archivo)

variable {Hash : Type} [DecidableEq Hash] (sb : Superbloque) (md5 : Bytes → Hash)
  (cfg : ConfigMemoria)

def pedir (n : Nodo (Storage Hash)) (p : Pedido) : Nodo (Storage Hash) :=
  { n with storage := trasPedido sb md5 n.storage p }

def ejecutar (n : Nodo (Storage Hash)) : Instruccion → Nodo (Storage Hash)
  | .create f => pedir sb md5 n (.crear f.val)
  | .truncate f tamanio => pedir sb md5 n (.truncar f.val tamanio)
  | .write f base contenido => (executeWrite (servidorStorage sb) cfg n f base contenido).nodo
  | .read f base tamanio => (executeRead (servidorStorage sb) cfg n f base tamanio).nodo
  | .tag origen destino => pedir sb md5 n (.tag origen.val destino.val)
  | .commit f => pedir sb md5 (executeFlush (servidorStorage sb) cfg n f) (.commit f.val)
  | .flush f => executeFlush (servidorStorage sb) cfg n f
  | .delete f => pedir sb md5 n (.eliminar f.val)

/-- What the instruction reads: nothing, unless it is a READ; `none` when that fails. -/
def lectura (n : Nodo (Storage Hash)) : Instruccion → List (Option Bytes)
  | .read f base tamanio =>
    let r := executeRead (servidorStorage sb) cfg n f base tamanio
    [if r.completo then some r.leido else none]
  | _ => []

def lecturas : Nodo (Storage Hash) → List Instruccion → List (Option Bytes)
  | _, [] => []
  | n, i :: is => lectura sb cfg n i ++ lecturas (ejecutar sb md5 cfg n i) is

def SinRechazo (n : Nodo (Storage Hash)) (i : Instruccion) : Prop :=
  (ejecutar sb md5 cfg n i).rechazados = n.rechazados

instance (n : Nodo (Storage Hash)) (i : Instruccion) : Decidable (SinRechazo sb md5 cfg n i) :=
  inferInstanceAs (Decidable (_ = _))

theorem a1_sinSeparador : ':' ∉ a1.file.texto.toList := by decide

def archivoUno : Archivo := ⟨a1, a1_sinSeparador⟩

end WorkerEjecucion

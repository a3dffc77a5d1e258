import MasterOfFiles.Storage.Archivos

/-!
WRITE_BLOCK and FLUSH of operaciones.c. Both look at the link count of the logical
block: 1 means writing in place, anything else a differentiated write on a new block
(steps a to f, the same text in both functions).
-/
namespace StorageEscritura
open StorageEstado StorageArchivos FirstFit

variable {Hash : Type}

/-- fread of the source block into a buffer and fwrite of it to the new one. Both files
    are opened before the read, so copying a block onto itself reads nothing. -/
def copiarFisico (sb : Superbloque) (s : Storage Hash) (actual nuevo : Nat) : Storage Hash :=
  let abierto := s.abrirVacio nuevo
  { abierto with
    datos := Function.update abierto.datos nuevo ((abierto.datos actual).take sb.tamanioBloque) }

inductive Copia (Hash : Type) where
  | sinEspacio
  | revertida (s : Storage Hash)
  | hecha (nuevo : Nat) (s : Storage Hash)

/-- Steps a to f of the differentiated write, with the rollback of each failure. -/
def escrituraDiferenciada (sb : Superbloque) (s : Storage Hash) (f : FileTag) (i actual : Nat) :
    Copia Hash :=
  match firstFree sb.cantidadBloques s.bitmap with
  | none => .sinEspacio
  | some nuevo =>
    let reservado := s.ocupar nuevo
    if reservado.existe actual = false then .revertida ((reservado.abrirVacio nuevo).liberar nuevo)
    else
      let copiado := copiarFisico sb reservado actual nuevo
      match copiado.desenlazar f i with
      | none => .revertida (copiado.liberar nuevo)
      | some suelto =>
        match suelto.enlazar nuevo f i with
        | none =>
          let libre := suelto.liberar nuevo
          .revertida ((libre.enlazar actual f i).getD libre)
        | some nuevoLink => .hecha nuevo nuevoLink

/-- BLOCKS of metadata.config rewritten with config_set_value and config_save. -/
def guardarBlocks (s : Storage Hash) (f : FileTag) (blocks : List Nat) : Storage Hash :=
  match s.carpetas.lookup f with
  | none => s
  | some c => s.ponerCarpeta f { c with blocks := blocks }

/-- strlen bytes of the payload, then zeros up to the size of a block. -/
def contenidoDeCadena (sb : Superbloque) (contenido : Bytes) : Bytes :=
  let cadena := contenido.takeWhile (· ≠ 0)
  cadena ++ List.replicate (sb.tamanioBloque - cadena.length) 0

def escribirEnFinal (s : Storage Hash) (b : Nat) (contenido : Bytes) : Bool × Storage Hash :=
  match s.escribirFisico b contenido with
  | none => (false, s)
  | some s' => (true, s')

def escribirBloque (sb : Superbloque) (s : Storage Hash) (f : FileTag) (bloque : Int)
    (contenido : Bytes) : Bool × Storage Hash :=
  if esProtegido f then (false, s)
  else if verificarSiCommited s f then (false, s)
  else match s.carpetas.lookup f with
  | none => (false, s)
  | some c =>
    if bloque < 0 ∨ (sb.bloquesLogicos c.tamanio : Int) ≤ bloque then (false, s)
    else if c.blocks.length ≤ bloque.toNat then (false, s)
    else
      let i := bloque.toNat
      let actual := c.blocks.getD i 0
      match s.destino f i with
      | none => (false, s)
      | some b =>
        if s.nlink b = 1 then escribirEnFinal s actual (contenidoDeCadena sb contenido)
        else match escrituraDiferenciada sb s f i actual with
        | .sinEspacio => (false, s)
        | .revertida s' => (false, s')
        | .hecha nuevo s' =>
          escribirEnFinal (guardarBlocks s' f (c.blocks.set i nuevo)) nuevo
            (contenidoDeCadena sb contenido)

/-- t_escritura_pendiente; `nuevoValor` is present when the metadata must change. -/
structure EscrituraPendiente where
  bloqueFinal : Nat
  contenido : Bytes
  numeroBloque : Nat
  nuevoValor : Option Nat

structure FaseFlush (Hash : Type) where
  storage : Storage Hash
  exitosas : Bool
  pendientes : List EscrituraPendiente

/-- One page of the packet: number of the logical block and contents of the frame. -/
abbrev Pagina := Int × Bytes

/-- One turn of the first loop of flush_archivo; `c` is the metadata it loaded before. -/
def prepararPagina (sb : Superbloque) (f : FileTag) (c : Carpeta) (fase : FaseFlush Hash)
    (pagina : Pagina) : FaseFlush Hash :=
  if pagina.1 < 0 ∨ (sb.bloquesLogicos c.tamanio : Int) ≤ pagina.1 then
    { fase with exitosas := false }
  else if c.blocks.length ≤ pagina.1.toNat then { fase with exitosas := false }
  else
    let i := pagina.1.toNat
    let actual := c.blocks.getD i 0
    match fase.storage.destino f i with
    | none => { fase with exitosas := false }
    | some b =>
      if fase.storage.nlink b = 1 then
        { fase with pendientes := fase.pendientes ++ [⟨actual, pagina.2, i, none⟩] }
      else match escrituraDiferenciada sb fase.storage f i actual with
      | .sinEspacio => { fase with exitosas := false }
      | .revertida s' => { fase with storage := s', exitosas := false }
      | .hecha nuevo s' =>
        { fase with storage := s',
                    pendientes := fase.pendientes ++ [⟨nuevo, pagina.2, i, some nuevo⟩] }

def actualizarBlocks (blocks : List Nat) (pendientes : List EscrituraPendiente) : List Nat :=
  pendientes.foldl (fun bs e => match e.nuevoValor with
    | none => bs
    | some v => bs.set e.numeroBloque v) blocks

def escribirPendientes (sb : Superbloque) (fase : FaseFlush Hash) : Bool × Storage Hash :=
  fase.pendientes.foldl (fun acc e =>
    let r := escribirEnFinal acc.2 e.bloqueFinal (e.contenido.take sb.tamanioBloque)
    (acc.1 && r.1, r.2)) (fase.exitosas, fase.storage)

/-- The payload of a FLUSH packet: its pages and the count that closes it. -/
def flushArchivo (sb : Superbloque) (s : Storage Hash) (f : FileTag) (paginas : List Pagina)
    (cantidadPaginas : Int) : Bool × Storage Hash :=
  if esProtegido f then (false, s)
  else match s.carpetas.lookup f with
  | none => (false, s)
  | some c =>
    if verificarSiCommited s f then (false, s)
    else
      let fase := (paginas.take cantidadPaginas.toNat).foldl (prepararPagina sb f c) ⟨s, true, []⟩
      -- "Paquete de FLUSH incompleto": the count announces more pages than there are
      let fase := if paginas.length < cantidadPaginas.toNat
        then { fase with exitosas := false } else fase
      let conMetadata :=
        if 0 < cantidadPaginas ∧ fase.exitosas ∧
            (fase.pendientes.any fun e => e.nuevoValor.isSome) then
          guardarBlocks fase.storage f (actualizarBlocks c.blocks fase.pendientes)
        else fase.storage
      let escrito := escribirPendientes sb { fase with storage := conMetadata }
      if escrito.1 then (true, escrito.2.persistirBitmap) else (false, escrito.2)

end StorageEscritura

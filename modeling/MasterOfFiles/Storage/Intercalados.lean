import MasterOfFiles.Storage.Pedidos
import Mathlib.Logic.Relation

/-!
DELETE and FLUSH one file-system call, or one section under mutex_bitmap, at a time. Each
holds the mutex of its own File:Tag from end to end, so what it reads and saves of its own
metadata is one step. The model follows the disk until a block that is still linked loses
its file: a new file of that number would be another inode.
-/
namespace StorageIntercalados
open StorageEstado StorageArchivos StorageEscritura FirstFit

variable {Hash : Type}

/-- The next call of eliminar_file_tag; the index is the i of its two loops. -/
inductive PasoDelete where
  | access
  | abrirMetadata
  | unlinkLogico (i : Nat)
  | stat (i : Nat)
  | unlinkFisico (i : Nat)
  | limpiarBit (i : Nat)
  | limpiarFaltante (i : Nat)
  | persistir
  | rmRf
  | fin (exito : Bool)

/-- `bloques` is the array read from BLOCKS. -/
structure Delete where
  pc : PasoDelete
  bloques : List Nat

def Delete.inicial : Delete := ⟨.access, []⟩

def Delete.aStat (d : Delete) (i : Nat) : Delete :=
  { d with pc := if i < d.bloques.length then .stat i else .persistir }

def Delete.aUnlink (d : Delete) (i : Nat) : Delete :=
  if i < d.bloques.length then { d with pc := .unlinkLogico i } else d.aStat 0

def pasoDelete (sb : Superbloque) (f : FileTag) (d : Delete) (s : Storage Hash) :
    Delete × Storage Hash :=
  match d.pc with
  | .access =>
    if esProtegido f ∨ s.carpetas.lookup f = none then ({ d with pc := .fin false }, s)
    else ({ d with pc := .abrirMetadata }, s)
  | .abrirMetadata =>
    match s.carpetas.lookup f with
    | none => ({ d with pc := .fin false }, s)
    | some c => (Delete.aUnlink { d with bloques := c.blocks } 0, s)
  | .unlinkLogico i => (d.aUnlink (i + 1), (s.desenlazar f i).getD s)
  | .stat i =>
    let b := d.bloques.getD i 0
    if s.existe b then
      if s.nlink b ≤ 1 then ({ d with pc := .unlinkFisico i }, s) else (d.aStat (i + 1), s)
    else ({ d with pc := .limpiarFaltante i }, s)
  | .unlinkFisico i => ({ d with pc := .limpiarBit i }, s.borrarFisico (d.bloques.getD i 0))
  | .limpiarBit i => (d.aStat (i + 1), s.liberar (d.bloques.getD i 0))
  | .limpiarFaltante i =>
    let b := d.bloques.getD i 0
    (d.aStat (i + 1),
      if b < (sb.cantidadBloques + 7) / 8 ∧ s.bitmap b = true then s.liberar b else s)
  | .persistir => ({ d with pc := .rmRf }, s.persistirBitmap)
  | .rmRf => ({ d with pc := .fin true }, borrarCarpeta s f)
  | .fin _ => (d, s)

structure EnTurno where
  i : Nat
  actual : Nat
  contenido : Bytes

/-- The next call of flush_archivo; `nuevo` is the block reserved for the page in turn. -/
inductive PasoFlush where
  | access
  | verificarEstado
  | abrirMetadata
  | statLogico
  | reservar (p : EnTurno)
  | abrirOrigen (p : EnTurno) (nuevo : Nat)
  | abrirDestino (p : EnTurno) (nuevo : Nat) (origen : Bool)
  | leer (p : EnTurno) (nuevo : Nat)
  | escribirCopia (p : EnTurno) (nuevo : Nat) (buffer : Bytes)
  | unlinkLogico (p : EnTurno) (nuevo : Nat)
  | link (p : EnTurno) (nuevo : Nat)
  | revertir (nuevo : Nat)
  | revertirLink (p : EnTurno) (nuevo : Nat)
  | recrearLink (p : EnTurno)
  | guardarMetadata
  | abrirFinal
  | escribirFinal (e : EscrituraPendiente)
  | persistir
  | fin (exito : Bool)

/-- `metadata` is what was loaded before the loop, `paginas` the pages still to prepare,
    `cantidad` the count that closes the packet and `incompleto` whether pages are missing. -/
structure Flush where
  pc : PasoFlush
  metadata : Carpeta
  paginas : List Pagina
  cantidad : Int
  incompleto : Bool
  exitosas : Bool
  pendientes : List EscrituraPendiente

def Flush.inicial (paginas : List Pagina) (cantidad : Int) : Flush where
  pc := .access
  metadata := ⟨0, .workInProgress, [], ∅⟩
  paginas := paginas.take cantidad.toNat
  cantidad := cantidad
  incompleto := decide (paginas.length < cantidad.toNat)
  exitosas := true
  pendientes := []

/-- The loop goes on with the next page after a failure, or after a page that is ready. -/
def Flush.falla (x : Flush) : Flush := { x with pc := .statLogico, exitosas := false }

def Flush.lista (x : Flush) (e : EscrituraPendiente) : Flush :=
  { x with pc := .statLogico, pendientes := x.pendientes ++ [e] }

def Flush.aEscribir (x : Flush) : Flush :=
  { x with pc := match x.pendientes, x.exitosas with
    | _ :: _, _ => .abrirFinal
    | [], true => .persistir
    | [], false => .fin false }

def pasoFlush (sb : Superbloque) (f : FileTag) (x : Flush) (s : Storage Hash) :
    Flush × Storage Hash :=
  match x.pc with
  | .access =>
    if esProtegido f ∨ s.carpetas.lookup f = none then ({ x with pc := .fin false }, s)
    else ({ x with pc := .verificarEstado }, s)
  | .verificarEstado =>
    if verificarSiCommited s f then ({ x with pc := .fin false }, s)
    else ({ x with pc := .abrirMetadata }, s)
  | .abrirMetadata =>
    match s.carpetas.lookup f with
    | none => ({ x with pc := .fin false }, s)
    | some c => ({ x with pc := .statLogico, metadata := c }, s)
  | .statLogico =>
    match x.paginas with
    | [] => ({ x with pc := .guardarMetadata, exitosas := x.exitosas && !x.incompleto }, s)
    | pagina :: resto =>
      let x := { x with paginas := resto }
      if pagina.1 < 0 ∨ (sb.bloquesLogicos x.metadata.tamanio : Int) ≤ pagina.1 then (x.falla, s)
      else if x.metadata.blocks.length ≤ pagina.1.toNat then (x.falla, s)
      else
        let p : EnTurno := ⟨pagina.1.toNat, x.metadata.blocks.getD pagina.1.toNat 0, pagina.2⟩
        match s.destino f p.i with
        | none => (x.falla, s)
        | some b =>
          if s.nlink b = 1 then (x.lista ⟨p.actual, p.contenido, p.i, none⟩, s)
          else ({ x with pc := .reservar p }, s)
  | .reservar p =>
    match firstFree sb.cantidadBloques s.bitmap with
    | none => (x.falla, s)
    | some nuevo => ({ x with pc := .abrirOrigen p nuevo }, s.ocupar nuevo)
  | .abrirOrigen p nuevo => ({ x with pc := .abrirDestino p nuevo (s.existe p.actual) }, s)
  | .abrirDestino p nuevo origen =>
    ({ x with pc := if origen then .leer p nuevo else .revertir nuevo }, s.abrirVacio nuevo)
  | .leer p nuevo =>
    ({ x with pc := .escribirCopia p nuevo ((s.datos p.actual).take sb.tamanioBloque) }, s)
  | .escribirCopia p nuevo buffer =>
    ({ x with pc := .unlinkLogico p nuevo },
      { s with datos := Function.update s.datos nuevo buffer })
  | .unlinkLogico p nuevo =>
    match s.desenlazar f p.i with
    | none => ({ x with pc := .revertir nuevo }, s)
    | some s' => ({ x with pc := .link p nuevo }, s')
  | .link p nuevo =>
    match s.enlazar nuevo f p.i with
    | none => ({ x with pc := .revertirLink p nuevo }, s)
    | some s' => (x.lista ⟨nuevo, p.contenido, p.i, some nuevo⟩, s')
  | .revertir nuevo => (x.falla, s.liberar nuevo)
  | .revertirLink p nuevo => ({ x with pc := .recrearLink p }, s.liberar nuevo)
  | .recrearLink p => (x.falla, (s.enlazar p.actual f p.i).getD s)
  | .guardarMetadata =>
    (x.aEscribir,
      if 0 < x.cantidad ∧ x.exitosas ∧ (x.pendientes.any fun e => e.nuevoValor.isSome) then
        guardarBlocks s f (actualizarBlocks x.metadata.blocks x.pendientes)
      else s)
  | .abrirFinal =>
    match x.pendientes with
    | [] => (x.aEscribir, s)
    | e :: resto =>
      if s.existe e.bloqueFinal then
        ({ x with pc := .escribirFinal e, pendientes := resto }, s)
      else (Flush.aEscribir { x with pendientes := resto, exitosas := false }, s)
  | .escribirFinal e =>
    let bytes := e.contenido.take sb.tamanioBloque
    (x.aEscribir, { s with
      datos := Function.update s.datos e.bloqueFinal
        (bytes ++ (s.datos e.bloqueFinal).drop bytes.length) })
  | .persistir => ({ x with pc := .fin true }, s.persistirBitmap)
  | .fin _ => (x, s)

inductive Quien where
  | delete
  | flush

structure Sistema (Hash : Type) where
  storage : Storage Hash
  delete : Delete
  flush : Flush

/-- One step of the request that the scheduler lets go on. -/
def paso (sb : Superbloque) (d f : FileTag) (x : Sistema Hash) : Quien → Sistema Hash
  | .delete =>
    let r := pasoDelete sb d x.delete x.storage
    { x with delete := r.1, storage := r.2 }
  | .flush =>
    let r := pasoFlush sb f x.flush x.storage
    { x with flush := r.1, storage := r.2 }

abbrev Llega (sigue : Pc × Storage Hash → Pc × Storage Hash) :
    Pc × Storage Hash → Pc × Storage Hash → Prop :=
  Relation.ReflTransGen fun x y => sigue x = y

def soloDelete (sb : Superbloque) (f : FileTag) (x : Delete × Storage Hash) :
    Delete × Storage Hash :=
  pasoDelete sb f x.1 x.2

def soloFlush (sb : Superbloque) (f : FileTag) (x : Flush × Storage Hash) :
    Flush × Storage Hash :=
  pasoFlush sb f x.1 x.2

variable {Pc : Type} {sb : Superbloque} {f : FileTag} {s : Storage Hash}

theorem aUnlink_pc (d : Delete) (pc : PasoDelete) (i : Nat) :
    Delete.aUnlink { d with pc := pc } i = d.aUnlink i := by
  simp [Delete.aUnlink, Delete.aStat]

theorem unlink_bucle (sb : Superbloque) (f : FileTag) (d : Delete) (n : Nat) :
    ∀ (i : Nat) (s : Storage Hash), i + n = d.bloques.length →
      Llega (soloDelete sb f) (d.aUnlink i, s) (d.aStat 0, desenlazarTodos f n i s) := by
  induction n with
  | zero =>
    intro i s ends
    have last : d.aUnlink i = d.aStat 0 := by simp [Delete.aUnlink, ← ends]
    rw [last]
    exact .refl
  | succ n ih =>
    intro i s more
    have inside : d.aUnlink i = { d with pc := .unlinkLogico i } := by
      rw [Delete.aUnlink, if_pos (by omega)]
    have step : soloDelete sb f (d.aUnlink i, s) =
        (d.aUnlink (i + 1), (s.desenlazar f i).getD s) := by
      simp only [inside, soloDelete, pasoDelete, aUnlink_pc]
    exact .head step (ih (i + 1) _ (by omega))

theorem stat_turno (sb : Superbloque) (f : FileTag) (d : Delete) {i : Nat}
    (inside : i < d.bloques.length) (s : Storage Hash) :
    Llega (soloDelete sb f) (d.aStat i, s)
      (d.aStat (i + 1), liberarFisico sb s (d.bloques.getD i 0)) := by
  have start : d.aStat i = { d with pc := .stat i } := by rw [Delete.aStat, if_pos inside]
  rw [start]
  unfold liberarFisico
  split
  · rename_i there
    split
    · rename_i few
      have step : soloDelete sb f ({ d with pc := .stat i }, s) =
          ({ d with pc := .unlinkFisico i }, s) := by
        simp only [soloDelete, pasoDelete, there, few, if_true]
      exact .head step (.head rfl (.single rfl))
    · rename_i many
      refine .single ?_
      simp only [soloDelete, pasoDelete, there, many, if_true, if_false, Delete.aStat]
  · rename_i missing
    have step : soloDelete sb f ({ d with pc := .stat i }, s) =
        ({ d with pc := .limpiarFaltante i }, s) := by
      simp only [soloDelete, pasoDelete, missing, Bool.false_eq_true, if_false]
    exact .head step (.single rfl)

theorem stat_bucle (sb : Superbloque) (f : FileTag) (d : Delete) (rest : List Nat) :
    ∀ (i : Nat) (s : Storage Hash), d.bloques.drop i = rest →
      Llega (soloDelete sb f) (d.aStat i, s)
        ({ d with pc := .persistir }, rest.foldl (liberarFisico sb) s) := by
  induction rest with
  | nil =>
    intro i s ends
    have last : d.aStat i = { d with pc := .persistir } := by
      rw [Delete.aStat, if_neg (Nat.not_lt.mpr (List.drop_eq_nil_iff.mp ends))]
    rw [last]
    exact .refl
  | cons b rest ih =>
    intro i s more
    have inside : i < d.bloques.length := by
      by_contra h
      rw [List.drop_eq_nil_of_le (Nat.le_of_not_lt h)] at more
      contradiction
    have entry : d.bloques[i]? = some b := by
      rw [← List.head?_drop, more]
      rfl
    have turn := stat_turno sb f d inside s
    rw [List.getD_eq_getElem?_getD, entry, Option.getD_some] at turn
    refine turn.trans (ih (i + 1) _ ?_)
    rw [← List.tail_drop, more, List.tail_cons]

theorem delete_solo (sb : Superbloque) (f : FileTag) (s : Storage Hash) :
    ∃ bloques, Llega (soloDelete sb f) (Delete.inicial, s)
      (⟨.fin (eliminarFileTag sb s f).1, bloques⟩, (eliminarFileTag sb s f).2) := by
  by_cases hp : esProtegido f = true
  · refine ⟨[], .single ?_⟩
    simp [soloDelete, pasoDelete, Delete.inicial, eliminarFileTag, hp]
  cases hc : s.carpetas.lookup f with
  | none =>
    refine ⟨[], .single ?_⟩
    simp [soloDelete, pasoDelete, Delete.inicial, eliminarFileTag, hp, hc]
  | some c =>
    let d : Delete := ⟨.abrirMetadata, c.blocks⟩
    have first : soloDelete sb f (Delete.inicial, s) = (⟨.abrirMetadata, []⟩, s) := by
      simp [soloDelete, pasoDelete, Delete.inicial, hp, hc]
    have second : soloDelete sb f (⟨.abrirMetadata, []⟩, s) = (d.aUnlink 0, s) := by
      simp [soloDelete, pasoDelete, hc, d]
    have unlinks := unlink_bucle sb f d c.blocks.length 0 s (Nat.zero_add _)
    have frees := stat_bucle sb f d c.blocks 0 (desenlazarTodos f c.blocks.length 0 s) rfl
    refine ⟨c.blocks, .head first (.head second (unlinks.trans (frees.trans ?_)))⟩
    refine .head rfl (.single ?_)
    simp [soloDelete, pasoDelete, eliminarFileTag, hp, hc, d]

def Flush.enFase (x : Flush) (fase : FaseFlush Hash) (resto : List Pagina) : Flush :=
  { x with pc := .statLogico, paginas := resto, exitosas := fase.exitosas,
           pendientes := fase.pendientes }

def Flush.trasCopia (x : Flush) (p : EnTurno) (s : Storage Hash) : Copia Hash → Flush × Storage Hash
  | .sinEspacio => (x.falla, s)
  | .revertida s' => (x.falla, s')
  | .hecha nuevo s' => (x.lista ⟨nuevo, p.contenido, p.i, some nuevo⟩, s')

theorem copia_turno (sb : Superbloque) (f : FileTag) (x : Flush) (p : EnTurno)
    (s : Storage Hash) :
    Llega (soloFlush sb f) ({ x with pc := .reservar p }, s)
      (x.trasCopia p s (escrituraDiferenciada sb s f p.i p.actual)) := by
  cases hn : firstFree sb.cantidadBloques s.bitmap with
  | none =>
    refine .single ?_
    simp only [soloFlush, pasoFlush, hn, escrituraDiferenciada, Flush.trasCopia]
    rfl
  | some nuevo =>
    have reserve : soloFlush sb f ({ x with pc := .reservar p }, s) =
        ({ x with pc := .abrirOrigen p nuevo }, s.ocupar nuevo) := by
      simp only [soloFlush, pasoFlush, hn]
    refine .head reserve ?_
    cases he : (s.ocupar nuevo).existe p.actual with
    | false =>
      have opened : soloFlush sb f ({ x with pc := .abrirOrigen p nuevo }, s.ocupar nuevo) =
          ({ x with pc := .abrirDestino p nuevo false }, s.ocupar nuevo) := by
        simp only [soloFlush, pasoFlush, he]
      refine .head opened (.head rfl (.single ?_))
      simp [soloFlush, pasoFlush, hn, he, escrituraDiferenciada, Flush.trasCopia, Flush.falla]
    | true =>
      have opened : soloFlush sb f ({ x with pc := .abrirOrigen p nuevo }, s.ocupar nuevo) =
          ({ x with pc := .abrirDestino p nuevo true }, s.ocupar nuevo) := by
        simp only [soloFlush, pasoFlush, he]
      have copy : Llega (soloFlush sb f)
          ({ x with pc := .abrirDestino p nuevo true }, s.ocupar nuevo)
          ({ x with pc := .unlinkLogico p nuevo }, copiarFisico sb (s.ocupar nuevo) p.actual nuevo) :=
        .head rfl (.head rfl (.single rfl))
      refine .head opened (copy.trans ?_)
      simp only [escrituraDiferenciada, hn, he, Bool.true_eq_false, if_false]
      generalize copiarFisico sb (s.ocupar nuevo) p.actual nuevo = copiado
      cases hu : copiado.desenlazar f p.i with
      | none =>
        have stuck : soloFlush sb f ({ x with pc := .unlinkLogico p nuevo }, copiado) =
            ({ x with pc := .revertir nuevo }, copiado) := by
          simp only [soloFlush, pasoFlush, hu]
        exact .head stuck (.single rfl)
      | some suelto =>
        have unlinked : soloFlush sb f ({ x with pc := .unlinkLogico p nuevo }, copiado) =
            ({ x with pc := .link p nuevo }, suelto) := by
          simp only [soloFlush, pasoFlush, hu]
        refine .head unlinked ?_
        dsimp only
        cases hl : suelto.enlazar nuevo f p.i with
        | none =>
          have stuck : soloFlush sb f ({ x with pc := .link p nuevo }, suelto) =
              ({ x with pc := .revertirLink p nuevo }, suelto) := by
            simp only [soloFlush, pasoFlush, hl]
          exact .head stuck (.head rfl (.single rfl))
        | some s' =>
          refine .single ?_
          simp only [soloFlush, pasoFlush, hl]
          rfl

theorem pagina_turno (sb : Superbloque) (f : FileTag) (x : Flush) (fase : FaseFlush Hash)
    (pagina : Pagina) (resto : List Pagina) :
    Llega (soloFlush sb f) (x.enFase fase (pagina :: resto), fase.storage)
      (x.enFase (prepararPagina sb f x.metadata fase pagina) resto,
        (prepararPagina sb f x.metadata fase pagina).storage) := by
  unfold prepararPagina
  split
  · rename_i outside
    refine .single ?_
    simp only [soloFlush, pasoFlush, Flush.enFase, outside, if_true]
    rfl
  rename_i inside
  split
  · rename_i short
    refine .single ?_
    simp only [soloFlush, pasoFlush, Flush.enFase, inside, short, if_true, if_false]
    rfl
  rename_i listed
  dsimp only
  cases hd : fase.storage.destino f pagina.1.toNat with
  | none =>
    refine .single ?_
    simp only [soloFlush, pasoFlush, Flush.enFase, inside, listed, hd, if_false]
    rfl
  | some b =>
    dsimp only
    by_cases alone : fase.storage.nlink b = 1
    · rw [if_pos alone]
      refine .single ?_
      simp only [soloFlush, pasoFlush, Flush.enFase, inside, listed, hd, alone, if_true, if_false]
      rfl
    · rw [if_neg alone]
      have differ : soloFlush sb f (x.enFase fase (pagina :: resto), fase.storage) =
          ({ x.enFase fase resto with pc := .reservar ⟨pagina.1.toNat,
            x.metadata.blocks.getD pagina.1.toNat 0, pagina.2⟩ }, fase.storage) := by
        simp only [soloFlush, pasoFlush, Flush.enFase, inside, listed, hd, alone, if_false]
      refine .head differ ?_
      have copied := copia_turno sb f (x.enFase fase resto) ⟨pagina.1.toNat,
        x.metadata.blocks.getD pagina.1.toNat 0, pagina.2⟩ fase.storage
      cases he : escrituraDiferenciada sb fase.storage f pagina.1.toNat
          (x.metadata.blocks.getD pagina.1.toNat 0) with
      | sinEspacio => rw [he] at copied; exact copied
      | revertida s' => rw [he] at copied; exact copied
      | hecha nuevo s' => rw [he] at copied; exact copied

theorem pagina_bucle (sb : Superbloque) (f : FileTag) (x : Flush) (paginas : List Pagina) :
    ∀ fase : FaseFlush Hash, Llega (soloFlush sb f) (x.enFase fase paginas, fase.storage)
      (x.enFase (paginas.foldl (prepararPagina sb f x.metadata) fase) [],
        (paginas.foldl (prepararPagina sb f x.metadata) fase).storage) := by
  induction paginas with
  | nil => intro fase; exact .refl
  | cons pagina resto ih =>
    intro fase
    exact (pagina_turno sb f x fase pagina resto).trans (ih _)

def cerrarFlush (r : Bool × Storage Hash) : Bool × Storage Hash :=
  if r.1 then (true, r.2.persistirBitmap) else (false, r.2)

theorem cerrarFlush_fst (r : Bool × Storage Hash) : (cerrarFlush r).1 = r.1 := by
  unfold cerrarFlush
  split
  · rename_i ok
    exact ok.symm
  · rename_i failed
    simpa using failed

theorem escribir_bucle (sb : Superbloque) (f : FileTag) (pendientes : List EscrituraPendiente) :
    ∀ (x : Flush) (s : Storage Hash), x.pendientes = pendientes →
      ∃ x' : Flush, x'.pc = .fin (escribirPendientes sb ⟨s, x.exitosas, pendientes⟩).1 ∧
        Llega (soloFlush sb f) (x.aEscribir, s)
          (x', (cerrarFlush (escribirPendientes sb ⟨s, x.exitosas, pendientes⟩)).2) := by
  induction pendientes with
  | nil =>
    intro x s empty
    cases he : x.exitosas with
    | false =>
      have last : x.aEscribir = { x with pc := .fin false } := by
        simp only [Flush.aEscribir, empty, he]
      exact ⟨{ x with pc := .fin false }, rfl, by rw [last]; exact .refl⟩
    | true =>
      have last : x.aEscribir = { x with pc := .persistir } := by
        simp only [Flush.aEscribir, empty, he]
      exact ⟨{ x with pc := .fin true }, rfl, by rw [last]; exact .single rfl⟩
  | cons e rest ih =>
    intro x s more
    have start : x.aEscribir = { x with pc := .abrirFinal } := by
      simp only [Flush.aEscribir, more]
    rw [start]
    cases he : s.existe e.bloqueFinal with
    | false =>
      obtain ⟨x', done, tail⟩ := ih { x with pendientes := rest, exitosas := false } s rfl
      have skip : soloFlush sb f ({ x with pc := .abrirFinal }, s) =
          (Flush.aEscribir { x with pendientes := rest, exitosas := false }, s) := by
        simp only [soloFlush, pasoFlush, more, he, Bool.false_eq_true, if_false]
        rfl
      have same : escribirPendientes sb ⟨s, x.exitosas, e :: rest⟩ =
          escribirPendientes sb ⟨s, false, rest⟩ := by
        simp [escribirPendientes, escribirEnFinal, Storage.escribirFisico, he]
      rw [same]
      exact ⟨x', done, .head skip tail⟩
    | true =>
      obtain ⟨x', done, tail⟩ := ih { x with pendientes := rest }
        (escribirEnFinal s e.bloqueFinal (e.contenido.take sb.tamanioBloque)).2 rfl
      have opened : soloFlush sb f ({ x with pc := .abrirFinal }, s) =
          ({ x with pc := .escribirFinal e, pendientes := rest }, s) := by
        simp only [soloFlush, pasoFlush, more, he, if_true]
      have written : soloFlush sb f ({ x with pc := .escribirFinal e, pendientes := rest }, s) =
          (Flush.aEscribir { x with pendientes := rest },
            (escribirEnFinal s e.bloqueFinal (e.contenido.take sb.tamanioBloque)).2) := by
        simp only [soloFlush, pasoFlush, escribirEnFinal, Storage.escribirFisico, he, if_true]
        rfl
      have same : escribirPendientes sb ⟨s, x.exitosas, e :: rest⟩ = escribirPendientes sb
          ⟨(escribirEnFinal s e.bloqueFinal (e.contenido.take sb.tamanioBloque)).2,
            x.exitosas, rest⟩ := by
        simp [escribirPendientes, escribirEnFinal, Storage.escribirFisico, he]
      rw [same]
      exact ⟨x', done, .head opened (.head written tail)⟩

theorem flush_solo (sb : Superbloque) (f : FileTag) (paginas : List Pagina) (cantidad : Int)
    (s : Storage Hash) :
    ∃ x : Flush, x.pc = .fin (flushArchivo sb s f paginas cantidad).1 ∧
      Llega (soloFlush sb f) (Flush.inicial paginas cantidad, s)
        (x, (flushArchivo sb s f paginas cantidad).2) := by
  by_cases hp : esProtegido f = true
  · refine ⟨{ Flush.inicial paginas cantidad with pc := .fin false }, ?_, .single ?_⟩
    · simp [flushArchivo, hp]
    · simp [soloFlush, pasoFlush, Flush.inicial, flushArchivo, hp]
  cases hc : s.carpetas.lookup f with
  | none =>
    refine ⟨{ Flush.inicial paginas cantidad with pc := .fin false }, ?_, .single ?_⟩
    · simp [flushArchivo, hp, hc]
    · simp [soloFlush, pasoFlush, Flush.inicial, flushArchivo, hp, hc]
  | some c =>
    have first : soloFlush sb f (Flush.inicial paginas cantidad, s) =
        ({ Flush.inicial paginas cantidad with pc := .verificarEstado }, s) := by
      simp [soloFlush, pasoFlush, Flush.inicial, hp, hc]
    cases closed : verificarSiCommited s f with
    | true =>
      refine ⟨{ Flush.inicial paginas cantidad with pc := .fin false }, ?_, .head first (.single ?_)⟩
      · simp [flushArchivo, hp, hc, closed]
      · simp [soloFlush, pasoFlush, flushArchivo, hp, hc, closed]
    | false =>
      let x : Flush := { Flush.inicial paginas cantidad with pc := .statLogico, metadata := c }
      let fase : FaseFlush Hash :=
        (paginas.take cantidad.toNat).foldl (prepararPagina sb f c) ⟨s, true, []⟩
      have second : soloFlush sb f ({ Flush.inicial paginas cantidad with
          pc := .verificarEstado }, s) =
          ({ Flush.inicial paginas cantidad with pc := .abrirMetadata }, s) := by
        simp [soloFlush, pasoFlush, closed]
      have third : soloFlush sb f ({ Flush.inicial paginas cantidad with
          pc := .abrirMetadata }, s) = (x, s) := by
        simp [soloFlush, pasoFlush, hc, x]
      have loop := pagina_bucle sb f x (paginas.take cantidad.toNat) ⟨s, true, []⟩
      let fin : Bool := fase.exitosas && !decide (paginas.length < cantidad.toNat)
      let guardada : Storage Hash := if 0 < cantidad ∧ fin ∧
          (fase.pendientes.any fun e => e.nuevoValor.isSome) then
        guardarBlocks fase.storage f (actualizarBlocks c.blocks fase.pendientes)
        else fase.storage
      let y : Flush := { x.enFase fase [] with pc := .guardarMetadata, exitosas := fin }
      have ends : soloFlush sb f (x.enFase fase [], fase.storage) = (y, fase.storage) := rfl
      have saves : soloFlush sb f (y, fase.storage) = (y.aEscribir, guardada) := rfl
      obtain ⟨x', done, writes⟩ := escribir_bucle sb f fase.pendientes y guardada rfl
      have whole : flushArchivo sb s f paginas cantidad =
          cerrarFlush (escribirPendientes sb ⟨guardada, fin, fase.pendientes⟩) := by
        by_cases short : paginas.length < cantidad.toNat
        · simp [flushArchivo, hp, hc, closed, cerrarFlush, guardada, fin, fase, short]
        · simp [flushArchivo, hp, hc, closed, cerrarFlush, guardada, fin, fase, short]
      rw [whole]
      refine ⟨x', ?_, .head first (.head second (.head third
        (loop.trans (.head ends (.head saves writes)))))⟩
      rw [done, cerrarFlush_fst]

end StorageIntercalados

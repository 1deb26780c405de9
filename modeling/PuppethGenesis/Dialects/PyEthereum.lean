import PuppethGenesis.Core.Genesis

/-!
# Format C: the PyEthereum genesis specification

`pyEthereumGenesisSpec` and `newPyEthereumGenesisSpec`. The builder checks the
engine, then copies the header and the whole allocation, contract code and storage
included; it reads no fork block.
-/

namespace PuppethGenesis

/-- `pyEthereumGenesisSpec`. -/
structure PyEthereumGenesisSpec where
  nonce : BlockNonce
  timestamp : UInt64
  extraData : Bytes
  gasLimit : UInt64
  difficulty : Option Int
  mixhash : Hash
  coinbase : Address
  alloc : GenesisAlloc
  parentHash : Hash

/-- `newPyEthereumGenesisSpec`; `network` is not read. -/
def newPyEthereumGenesisSpec (_network : String) (genesis : Genesis) :
    Except Fault PyEthereumGenesisSpec := do
  if genesis.config.ethash.isNone then
    throw (.error "unsupported consensus engine")
  pure
    { nonce := encodeNonce genesis.nonce
      timestamp := genesis.timestamp
      extraData := genesis.extraData
      gasLimit := genesis.gasLimit
      difficulty := genesis.difficulty
      mixhash := genesis.mixhash
      coinbase := genesis.coinbase
      alloc := genesis.alloc
      parentHash := genesis.parentHash }

end PuppethGenesis

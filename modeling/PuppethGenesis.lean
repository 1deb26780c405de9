import PuppethGenesis.Core.Genesis
import PuppethGenesis.Core.AccountTable
import PuppethGenesis.Dialects.Aleth
import PuppethGenesis.Dialects.Parity
import PuppethGenesis.Dialects.PyEthereum
import PuppethGenesis.Accounts
import PuppethGenesis.Transitions
import PuppethGenesis.Schedules
import PuppethGenesis.Pricing
import PuppethGenesis.Outcomes
import PuppethGenesis.Reading

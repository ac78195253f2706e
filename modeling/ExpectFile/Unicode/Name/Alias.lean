/-!
# Formal aliases of character names

Further names of version 14 of the standard: of the control characters, of corrected names, and
abbreviations. They are packed as `Unicode.Name` describes.
-/

namespace ExpectFile.Unicode

/-- The formal aliases, by character. -/
def aliasNames : String :=
"(0)aNULL(0)daSTART OF HEADING(1)bOHbTART OF TEXT(2)cXaEND OF TEXT(3)bTXbND OF TRANSMISSION(4)bOT
bNQUIRY(5)daACKNOWLEDGE(6)dbLERT(7)aBELbACKSPACE(8)bSaCHARACTER TABULATION(9)aHORIZONTAL TABULAT
ION(9)bT(9)aTABaLINE FEED(A)aNEW LINE(A)aEND OF LINE(A)bOL(A)aLF(A)aNLaLINE TABULATION(B)aVERTIC
AL TABULATION(B)bTaFORM FEED(C)bFaCARRIAGE RETURN(D)bRaSHIFT OUT(E)aLOCKING-SHIFT ONE(E)aSObHIFT
 IN(F)aLOCKING-SHIFT ZERO(F)aSIaDATA LINK ESCAPE(10)bLEbEVICE CONTROL ONE(11)bC1bEVICE CONTROL T
WO(12)bC2bEVICE CONTROL THREE(13)bC3bEVICE CONTROL FOUR(14)bC4aNEGATIVE ACKNOWLEDGE(15)bAKaSYNCH
RONOUS IDLE(16)daEND OF TRANSMISSION BLOCK(17)bTBaCANCEL(18)daEND OF MEDIUM(19)bOMaSUBSTITUTE(1A
)daESCAPE(1B)daINFORMATION SEPARATOR FOUR(1C)aFILE SEPARATOR(1C)bSaINFORMATION SEPARATOR THREE(1
D)aGROUP SEPARATOR(1D)bSaINFORMATION SEPARATOR TWO(1E)aRECORD SEPARATOR(1E)bSaINFORMATION SEPARA
TOR ONE(1F)aUNIT SEPARATOR(1F)bSaSP(7F)aDELETE(7F)daPADDING CHARACTER(80)daHIGH OCTET PRESET(81)
bOPaBREAK PERMITTED HERE(82)bPHaNO BREAK HERE(83)bBHaINDEX(84)daNEXT LINE(85)cLaSTART OF SELECTE
D AREA(86)bSAaEND OF SELECTED AREA(87)bSAaCHARACTER TABULATION SET(88)aHORIZONTAL TABULATION SET
(88)bTSaCHARACTER TABULATION WITH JUSTIFICATION(89)aHORIZONTAL TABULATION WITH JUSTIFICATION(89)
bTJaLINE TABULATION SET(8A)aVERTICAL TABULATION SET(8A)bTSaPARTIAL LINE FORWARD(8B)nDOWN(8B)bLDb
ARTIAL LINE BACKWARD(8C)nUP(8C)bLUaREVERSE LINE FEED(8D)iINDEX(8D)bIaSINGLE SHIFT TWO(8E)g-SHIFT
-2(8E)bS2bINGLE SHIFT THREE(8F)g-SHIFT-3(8F)bS3aDEVICE CONTROL STRING(90)bCSaPRIVATE USE ONE(91)
l-1(91)bU1bRIVATE USE TWO(92)l-2(92)bU2aSET TRANSMIT STATE(93)bTSaCANCEL CHARACTER(94)bCHaMESSAG
E WAITING(95)bWaSTART OF GUARDED AREA(96)jPROTECTED AREA(96)bPAaEND OF GUARDED AREA(97)hPROTECTE
D AREA(97)bPAaSTART OF STRING(98)bOSbINGLE GRAPHIC CHARACTER INTRODUCER(99)bGCbINGLE CHARACTER I
NTRODUCER(9A)bCIaCONTROL SEQUENCE INTRODUCER(9B)bSIaSTRING TERMINATOR(9C)caOPERATING SYSTEM COMM
AND(9D)bSCaPRIVACY MESSAGE(9E)bMaAPPLICATION PROGRAM COMMAND(9F)cCaNBSP(AD)aSHY(1A2)aLATIN CAPIT
AL LETTER GHAgSMALL LETTER GHA(34F)aCGJ(61C)aALM(709)aSYRIAC SUBLINEAR COLON SKEWED LEFT(CDE)aKA
NNADA LETTER LLLA(E9D)aLAO LETTER FO FON(E9F)pAY(EA3)lRO(EA5)lLO(FD0)aTIBETAN MARK BKA- SHOG GI 
MGO RGYAN(11EC)aHANGUL JONGSEONG YESIEUNG-KIYEOK!SSANGKIYEOKrSSANGYESIEUNGrYESIEUNG-KHIEUKH(180B
)aFVS1d2d3aMVSaFVS4(200B)aZWSPcNJcJaLRMaRLM(202A)aLREaRLEaPDFaLROaRLOaNNBSP(205F)aMMSPaWJ(2066)a
LRIaRLIaFSIaPDI(2118)aWEIERSTRASS ELLIPTIC FUNCTION(2448)aMICR ON US SYMBOLfDASH SYMBOL(2B7A)aLE
FTWARDS TRIANGLE-HEADED ARROW WITH DOUBLE VERTICAL STROKE(2B7C)aRIGHTWARDS TRIANGLE-HEADED ARROW
 WITH DOUBLE VERTICAL STROKE(A015)aYI SYLLABLE ITERATION MARK(AA6E)aMYANMAR LETTER KHAMTI LLA(FE
00)aVS1c2c3c4c5c6c7c8c9c10d1d2d3d4d5d6(FE18)aPRESENTATION FORM FOR VERTICAL RIGHT WHITE LENTICUL
AR BRACKET(FEFF)aBYTE ORDER MARK(FEFF)bOM(FEFF)aZWNBSP(122D4)aCUNEIFORM SIGN NU11 TENUuOVER NU11
 BUR OVER BUR(16E56)aMEDEFAIDRIN CAPITAL LETTER H$NG(16E76)mSMALL LETTER HzNG(1B001)aHENTAIGANA 
LETTER E-1(1D0C5)aBYZANTINE MUSICAL SYMBOL FTHORA SKLIRON CHROMA VASIS(E0100)aVS17d8d9c20d1d2d3d
4d5d6d7d8d9c30d1d2d3d4d5d6d7d8d9c40d1d2d3d4d5d6d7d8d9c50d1d2d3d4d5d6d7d8d9c60d1d2d3d4d5d6d7d8d9c
70d1d2d3d4d5d6d7d8d9c80d1d2d3d4d5d6d7d8d9c90d1d2d3d4d5d6d7d8d9c100e1e2e3e4e5e6e7e8e9d10e1e2e3e4e
5e6e7e8e9d20e1e2e3e4e5e6e7e8e9d30e1e2e3e4e5e6e7e8e9d40e1e2e3e4e5e6e7e8e9d50e1e2e3e4e5e6e7e8e9d60
e1e2e3e4e5e6e7e8e9d70e1e2e3e4e5e6e7e8e9d80e1e2e3e4e5e6e7e8e9d90e1e2e3e4e5e6e7e8e9c200e1e2e3e4e5e
6e7e8e9d10e1e2e3e4e5e6e7e8e9d20e1e2e3e4e5e6e7e8e9d30e1e2e3e4e5e6e7e8e9d40e1e2e3e4e5e6e7e8e9d50e1
e2e3e4e5e6"

end ExpectFile.Unicode

/-!
# Names beyond the basic plane

The names of version 14 of the standard, packed as `Unicode.Name` describes: each entry says how
many characters it shares with the name before it.
-/

namespace ExpectFile.Unicode

/-- Names from U+10000 on, those that follow a formula left out. -/
def otherPlaneNames : String :=
"(10000)aLINEAR B SYLLABLE B008 Au38 Eu28 Iu61 Ou10 Uu01 DAu45 DEu07 DIu14 DOu51 DUv7 JAu46 JE(10
00D)u36 JOu65 JUu77 KAu44 KEu67 KIu70 KOu81 KUv0 MAu13 MEu73 MIu15 MOu23 MUu06 NAu24 NEu30 NIu52
 NOv5 NUu03 PAu72 PEu39 PIu11 POu50 PUu16 QAu78 QEu21 QIu32 QO(10028)u60 RAu27 REu53 RIu02 ROu26
 RUu31 SAu09 SEu41 SIu12 SOu58 SUv9 TAu04 TEu37 TIu05 TOu69 TUu54 WAu75 WEu40 WIv2 WO(1003C)u17 
ZAu74 ZE(1003F)u20 ZOv5 A2u43 A3u85 AUu71 DWEu90 DWOu48 NWAu29 PU2u62 PTEu76 RA2u33 RA3u68 RO2v6
 TA2u87 TWEu91 TWO(10050)lMBOL B018t9s22s34s47t9s56s63t4s79s82t3t6t9(10080)jIDEOGRAM B100 MANv2 
WOMANv4 DEERv5 EQUIDwF MAREwM STALLIONv6F EWEwM RAMv7F SHE-GOATwM HE-GOATv8F SOWwM BOARv9F COWwM
 BULLu20 WHEATv1 BARLEYv2 OLIVEv3 SPICEv5 CYPERUSjMONOGRAM B127 KAPOv8 KANAKOjIDEOGRAM B130 OILv
1 WINEv2jMONOGRAM B133 AREPAv5 MERIjIDEOGRAM B140 BRONZEv1 GOLDv2v5 WOOLv6u50v1 HORNv2v3v4jMONOG
RAM B156 TURO2jIDEOGRAM B157v8v9 CLOTHu60v1v2 GARMENTv3 ARMOURv4v5v6v7v8v9u70v1v2v3 MONTHv4v6 TR
EEv7v8v9u80v1v2v3v4v5v9u90v1 HELMETt220 FOOTSTOOLv5 BATHTUBu30 SPEARv1 ARROWv2v3 SWORDv4v6u40 WH
EELED CHARIOTv1 CHARIOTv2 CHARIOT FRAMEv3 WHEELv5v6jMONOGRAM B247 DIPTEjIDEOGRAM B248v9u51v2v3v4
 DARTv5v6v7v8v9sVESSEL B155!200%1%2%3%4%5%6%7%8%9$10%1%2%3%4%5%6%7%8%9$21%2%6%7%8%9$50!305(10100
)aAEGEAN WORD SEPARATOR LINEwDOThCHECK MARK(10107)hNUMBER ONEoTWOpHREEoFOURpIVEoSIXpEVENoEIGHToN
INEoTENpWENTYpHIRTYoFORTYpIFTYoSIXTYpEVENTYoEIGHTYoNINETYoONE HUNDREDoTWO HUNDREDpHREE HUNDREDoF
OUR HUNDREDpIVE HUNDREDoSIX HUNDREDpEVEN HUNDREDoEIGHT HUNDREDoNINE HUNDREDoONE THOUSANDoTWO THO
USANDpHREE THOUSANDoFOUR THOUSANDpIVE THOUSANDoSIX THOUSANDpEVEN THOUSANDoEIGHT THOUSANDoNINE TH
OUSANDoTEN THOUSANDpWENTY THOUSANDpHIRTY THOUSANDoFORTY THOUSANDpIFTY THOUSANDoSIXTY THOUSANDpEV
ENTY THOUSANDoEIGHTY THOUSANDoNINETY THOUSAND(10137)hWEIGHT BASE UNIToFIRST SUBUNIToSECOND SUBUN
IToTHIRD SUBUNIToFOURTH SUBUNIThDRY MEASURE FIRST SUBUNIThLIQUID MEASURE FIRST SUBUNIThMEASURE S
ECOND SUBUNITpTHIRD SUBUNITaGREEK ACROPHONIC ATTIC ONE QUARTER$HALF$DRACHMAxFIVEzFTYzVE HUNDRED%
THOUSANDzFTY THOUSANDzVE TALENTSxTEN TALENTSxFIFTY TALENTSxONE HUNDRED TALENTSxFIVE HUNDRED TALE
NTSxONE THOUSAND TALENTSxFIVE THOUSAND TALENTS%STATERSxTEN STATERSxFIFTY STATERSxONE HUNDRED STA
TERSxFIVE HUNDRED STATERSxONE THOUSAND STATERSxTEN THOUSAND STATERSxFIFTY THOUSAND STATERSxTEN M
NASrHERAEUM ONE PLETHRONrTHESPIAN ONErHERMIONIAN ONErEPIDAUREAN TWOrTHESPIAN TWOrCYRENAIC TWO DR
ACHMASrEPIDAUREAN TWO DRACHMASrTROEZENIAN FIVE%TEN+ ALTERNATE FORMrHERMIONIAN TENrMESSENIAN TENr
THESPIAN TEN$HIRTYsROEZENIAN FIFTY: ALTERNATE FORMrHERMIONIAN FIFTYrTHESPIAN FIFTY!ONE HUNDRED!T
HREE HUNDREDrEPIDAUREAN FIVE HUNDREDrTROEZENIAN FIVE HUNDREDsHESPIAN FIVE HUNDREDrCARYSTIAN FIVE
 HUNDREDrNAXIAN FIVE HUNDREDrTHESPIAN ONE THOUSAND!FIVE THOUSANDrDELPHIC FIVE MNASrSTRATIAN FIFT
Y MNASgONE HALF SIGNt ALTERNATE FORMgTWO THIRDS SIGNhHREE QUARTERS SIGNgYEAR SIGNgTALENT SIGNgDR
ACHMA SIGNgOBOL SIGNgTWO OBOLS SIGNhHREE OBOLS SIGNgFOUR OBOLS SIGNhIVE OBOLS SIGNgMETRETES SIGN
gKYATHOS BASE SIGNgLITRA SIGNgOUNKIA SIGNgXESTES SIGNgARTABE SIGNiOURA SIGNgGRAMMA SIGNgTRYBLION
 BASE SIGNgZERO SIGNgONE QUARTER SIGNgSINUSOID SIGNgINDICTION SIGNaNOMISMA SIGN(10190)aROMAN SEX
TANS SIGNgUNCIA SIGNgSEMUNCIA SIGNiXTULA SIGNgDIMIDIA SEXTULA SIGNgSILIQUA SIGNgDENARIUS SIGNgQU
INARIUS SIGNgSESTERTIUS SIGNgDUPONDIUS SIGNgAS SIGNgCENTURIAL SIGNaASCIA SYMBOL(101A0)aGREEK SYM
BOL TAU RHO(101D0)aPHAISTOS DISC SIGN PEDESTRIANuLUMED HEADtTATTOOED HEADtCAPTIVEuHILDtWOMANtHEL
METtGAUNTLETtTIARAtARROWtBOWtSHIELDtCLUBtMANACLESvTTOCKtSAWtLIDtBOOMERANGtCARPENTRY PLANEtDOLIUM
tCOMBtSLINGtCOLUMNtBEEHIVEtSHIPtHORNuIDEtBULLS LEGtCATtRAMtEAGLEtDOVEtTUNNYtBEEtPLANE TREEtVINEt
PAPYRUStROSETTEtLILYtOX BACKtFLUTEtGRATERtSTRAINERuMALL AXEtWAVY BANDtCOMBINING OBLIQUE STROKE(1
0280)aLYCIAN LETTER AoEoBpHoGoDoIoWoZoTHoJoKoQoLoMoNoMMoNNoUoPoKKoRoSoTpToANoENoHoX(102A0)aCARIA
N LETTER AoP2oDoLoUUUoRoLDoA2oQoBoMoOoD2oToSHq2poC-18oUoNNoXoNoTT2oPoSSoIoEoUUUUoKp2oNDoUUoGp2oS
Tq2oNGoIIoC-39oTToUUU2oRRoMBq2q3q4oLD2oE2oUUU3(102E0)bOPTIC EPACT THOUSANDS MARKnDIGIT ONEtTWOuH
REEtFOURuIVEtSIXuEVENtEIGHTtNINEnNUMBER TENvWENTYvHIRTYuFORTYvIFTYuSIXTYvEVENTYuEIGHTYuNINETYuON
E HUNDREDuTWO HUNDREDvHREE HUNDREDuFOUR HUNDREDvIVE HUNDREDuSIX HUNDREDvEVEN HUNDREDuEIGHT HUNDR
EDuNINE HUNDRED(10300)aOLD ITALIC LETTER AsBEsKEsDEsEsVEsZEsHEsTHEsIsKAsELtMtNtSHsOsPEsSHEsKUsER
tSsTEsUsEKSsPHEsKHEsEFtRSsCHEsIIsUUsESSlNUMERAL ONEtFIVEtTENtFIFTY(1032D)lLETTER YEsNORTHERN TSE
sSOUTHERN TSEaGOTHIC LETTER AHSAoBAIRKANoGIBAoDAGSoAIHVUSoQAIRTHRAoIUJAoHAGLoTHIUTHoEISoKUSMAoLA
GUSoMANNAoNAUTHSoJERoURUSoPAIRTHRAoNINETYoRAIDAoSAUILoTEIWSoWINJAoFAIHUoIGGWSoHWAIRoOTHALoNINE H
UNDRED(10350)aOLD PERMIC LETTER ANsBURsGAIsDOIsEsZHOIsDZHOIsZATAsDZITAsIsKOKEsLEIsMENOEsNENOEsVO
OIsPEEIsREIsSIIsTAIsUsCHERYsSHOOIuCHOOIsYRYtERUsOtOsEFsHAsTSIUsVERsYERvItATsIEsYUtAsIAaCOMBINING
 OLD PERMIC LETTER AN%DOI%ZATA%NENOE%SII(10380)aUGARITIC LETTER ALPAqBETAqGAMLAqKHAqDELTAqHOqWOq
ZETAqHOTAqTETqYODqKAFqSHINqLAMDAqMEMqDHALqNUNqZUqSAMKAqAINqPUqSADEqQOPAqRASHAqTHANNAqGHAINqTOqIq
UqSSU(1039F)jWORD DIVIDERaOLD PERSIAN SIGN ArIrUrKAsUrGAsUrXArCArJAsIrTAsUrDAsIsUrTHArPArBArFArN
AsUrMAsIsUrYArVAsIrRAsUrLArSArZArSHAsSArHA(103C8)rAURAMAZDAA$-2$HArXSHAAYATHIYArDAHYAAUSH!-2rBAG
AsUUMISHmWORD DIVIDERmNUMBER ONEtTWOuENuWENTYtHUNDRED(10400)aDESERET CAPITAL LETTER LONG I%E%A&H
%O&OxSHORT I&E&A*H&O*OxAYxOWxWUxYEExHxPEExBEExTEExDEExCHEExJEExKAYxGAYxEFxVEExETHxTHEExESxZEExES
HxZHEExERyLyMyNzGxOIxEWiSMALL LETTER LONG I!E!A$H!O$OvSHORT I$E$A%H$O%OvAYvOWvWUvYEEvHvPEEvBEEvT
EEvDEEvCHEEvJEEvKAYvGAYvEFvVEEvETHvTHEEvESvZEEvESHvZHEEvERwLwMwNxGvOIvEWaSHAVIAN LETTER PEEPpTOT
pKICKpFEEpTHIGHpSOqUREpCHURCHpYEApHUNGpBIBpDEADpGAGpVOWpTHEYpZOOpMEASUREpJUDGEpWOEpHA-HApLOLLpMI
MEpIFpEGGpASHqDOpONpWOOLpOUTpAHpROARpNUNpEATpAGEpICEpUPpOAKqOZEqILpAWEqREpORpAIRpERRpARRAYpEARpI
ANpYEWaOSMANYA LETTER ALEFpBApTApJApXApKHApDEELpRApSAqHIINpDHApCAYNpGApFApQAAFpKAAFpLAANpMIINpNU
UNpWAWpHApYApApEpIpOpUpAApEEpOO(104A0)iDIGIT ZEROoONEoTWOpHREEoFOURpIVEoSIXpEVENoEIGHToNINE(104B
0)cAGE CAPITAL LETTER AwIxNwHvBRAvCHAvEHCHAwwINvHAwYAvIvKAvEHKAvKYAvLAvMAvNAvOwINvPAvEHPAvSAwHAv
TAvEHTAvTSAvEHTSAvTSHAvDHAvUvWAvKHAvGHAvZAwHA(104D8)gSMALL LETTER AuIvNuHtBRAtCHAtEHCHAuuINtHAuY
AtItKAtEHKAtKYAtLAtMAtNAtOuINtPAtEHPAtSAuHAtTAtEHTAtTSAtEHTSAtTSHAtDHAtUtWAtKHAtGHAtZAuHA(10500)
aELBASAN LETTER ApBEpCEqHEpDEpNDEpDHEpEIqpFEpGEqJEpHEpIpJEpKEpLEqLEpMEpNEqAqJEpOpPEpQEpREqREpSEq
HEpTEqHEpUpVEpXEpYpZEqHEpGHErAMMApKHE(10530)aCAUCASIAN ALBANIAN LETTER ALT!BET!GIM!DAT!EB!ZARL!E
YN!ZHIL!TAS!CHA!YOWD!ZHA!IRB!SHA!LAN!INYA!XEYN!DYAN!CAR!JHOX!KAR!LYIT!HEYT!QAY!AOR!CHOY%I$YAY!MA
Q!QAR!NOWC!DZYAY!SHAK!JAYN!ON!TYAY!FAM!DZAY!CHAT!PEN!GHEYS!RAT!SEYK!VEYZ!TIWR!SHOY!IWN!CYAW$AYN!
YAYD!PIWR!KIW(1056F)tCITATION MARKaVITHKUQI CAPITAL LETTER AyBBEzEyCEzHEyDEzHEyEIzyFEyGA(1057C)y
HAzHAyIzJEyJEyKAyLAzLAyMEyNEzJEyOyPEyQAyRE(1058C)ySEzHEyTEzHEyUyVEyXE(10594)yYyZE(10597)jSMALL L
ETTER AwBBExEwCExHEwDExHEwEIxwFEwGA(105A3)wHAxHAwIxJEwJEwKAwLAxLAwMEwNExJEwOwPEwQAwRE(105B3)wSEx
HEwTExHEwUwVEwXE(105BB)wYwZE(10600)aLINEAR A SIGN AB001s2s3s4s5s6s7s8s9r10s1s3s6s7r20s1tFtMs2tFt
Ms3tMs4s6s7s8p028BpB029r30s1s4s7s8s9r40s1s4s5s6s7s8s9r50s1s3s4s5s6s7s8s9r60s1s5s6s7s9r70s3s4s6s7
s8s9r80s1s2s5s6s7p100-102pB118r20p120BpB122s3r31AtBp131CpB164r71r80s8r91p301r2r3r4r5r6r7r8r9AsBs
Cq10r1r2r3AsBsCr4r5r6r7r8r9q20r1r2r3r4r5r6r7r8r9q30r1r2r3r4r5r6r7r8r9q40r1r2r3r4r5r6r7r8r9q50r1r
2r3r4r5r6r7r8r9q60r1r2r3r4r5r6r7r8r9q70r1p400-VASr1-VASr2-VASr3-VASr4-VASr5-VASr6-VASr7-VASr8-VA
Sr9-VASq10-VASr1-VASr2-VASr3-VASr4-VASr5-VASr6-VASr7-VASr8-VASp501r2r3r4r5r6r8r9q10r1r2r3r5r6q20
r1r3r4r5r6r7r8r9q30r1r2r4r5r6r7r8r9q40r1r2r5r7r8r9q50r1r2r3r4r5r6r7r9q63r4r5r6r8r9q70r1r2r3r4r5r
6r7r8r9q80r1r2r3r4r5r6r7r8r9q91r2r4r5r6r8p600r1r2r3r4r6r8r9q10r1r2r3r4r5r6r7r8r9q20r1r2r3r4r6r7r
8r9q34r7r8q40r2r3r4r5r6r8r9q51r2r3r4r5r6r7r8r9q60r1r2r3r4(10740)p701 Ar2 Br3 Dr4 Er5 Fr6 Hr7 Jr8
 Kr9 Ls-2 L2t3 L3t4 L4t6 L6q10 Wr1 Xr2 Yr3 OMEGAr4 ABBr5 BBr7 DDq26 EYYYq32 JE(10760)p800r1r2r3r
4r5r6r7(10780)aMODIFIER LETTER SMALL CAPITAL AArUPERSCRIPT TRIANGULAR COLON%HALF TRIANGULAR COLO
NrMALL AEwCAPITAL BwB WITH HOOK(10787)wDZ DIGRAPH, WITH RETROFLEX HOOK?CURLxEZH DIGRAPHx WITH TA
IL&HOOK: AND TAILwREVERSED EwCLOSED REVERSED OPEN EwFENG DIGRAPHwRAMS HORNwCAPITAL GwG WITH HOOK
wCAPITAL G WITH HOOKwH WITH STROKEwCAPITAL HwHENG WITH HOOKwDOTLESS J WITH STROKE AND HOOKwLS DI
GRAPHxZ DIGRAPHx WITH BELTwCAPITAL L WITH BELTwL WITH RETROFLEX HOOK AND BELTxEZH! WITH RETROFLE
X HOOKwTURNED Y* WITH BELTwO WITH STROKEwCAPITAL OExLOSED OMEGAwQwTURNED R WITH LONG LEG_LEG AND
 RETROFLEX HOOKwR WITH TAIL&FISHHOOKwCAPITAL RwTC DIGRAPH WITH CURLxS DIGRAPH, WITH RETROFLEX HO
OKxESH DIGRAPHx WITH RETROFLEX HOOKwV WITH RIGHT HOOK(107B2)wCAPITAL YqGLOTTAL STOP WITH STROKEq
REVERSED GLOTTAL STOP WITH STROKEqBILABIAL CLICKqDENTAL CLICKqLATERAL CLICKqALVEOLAR CLICKqRETRO
FLEX CLICK WITH RETROFLEX HOOKqSMALL S WITH CURL(10800)aCYPRIOT SYLLABLE ArErIrOrUrJA(10808)sO(1
080A)rKAsEsIsOsUrLAsEsIsOsUrMAsEsIsOsUrNAsEsIsOsUrPAsEsIsOsUrRAsEsIsOsUrSAsEsIsOsUrTAsEsIsOsUrWA
sEsIsO(10837)rXAsE(1083C)rZA(1083F)sOaIMPERIAL ARAMAIC LETTER ALEPHyBETHyGIMELyDALETHyHEyWAWyZAY
INyHETHyTETHyYODHyKAPHyLAMEDHyMEMyNUNySAMEKHyAYINyPEySADHEyQOPHyRESHySHINyTAW(10857)rSECTION SIG
NrNUMBER ONEyTWOzHREEzENzWENTYyONE HUNDRED%THOUSANDyTEN THOUSANDaPALMYRENE LETTER ALEPHrBETHrGIM
ELrDALETHrHErWAWrZAYINrHETHrTETHrYODHrKAPHrLAMEDHrMEMrFINAL NUNrNUNrSAMEKHrAYINrPErSADHErQOPHrRE
SHrSHINrTAWmFT-POINTING FLEURONkRIGHT-POINTING FLEURONkNUMBER ONErTWOsHREErFOURsIVErTENsWENTYaNA
BATAEAN LETTER FINAL ALEPHrALEPHrFINAL BETHrBETHrGIMELrDALETHrFINAL HErHErWAWrZAYINrHETHrTETHrFI
NAL YODHrYODHrFINAL KAPHrKAPHrFINAL LAMEDHrLAMEDHrFINAL MEMrMEMrFINAL NUNrNUNrSAMEKHrAYINrPErSAD
HErQOPHrRESHrFINAL SHINrSHINrTAW(108A7)kNUMBER ONErTWOsHREErFOURkCRUCIFORM NUMBER FOURkNUMBER FI
VErTENsWENTYrONE HUNDRED(108E0)aHATRAN LETTER ALEPHoBETHoGIMELoDALETH-RESHoHEoWAWoZAYNoHETHoTETH
oYODHoKAPHoLAMEDHoMEMoNUNoSAMEKHoAYNoPEoSADHEoQOPH(108F4)oSHINoTAW(108FB)hNUMBER ONEoFIVEoTENpWE
NTYoONE HUNDREDaPHOENICIAN LETTER ALFsBETsGAMLsDELTsHEsWAUsZAIsHETsTETsYODsKAFsLAMDsMEMsNUNsSEMK
sAINsPEsSADEsQOFsROSHsSHINsTAUlNUMBER ONEsTENtWENTYsONE HUNDREDsTWOtHREE(1091F)lWORD SEPARATORaL
YDIAN LETTER AoBoGoDoEoVoIoYoKoLoMoNoOoRoSSoToUoFoQoSoTToANoENoLYoNNoC(1093F)hTRIANGULAR MARK(10
980)aMEROITIC HIEROGLYPHIC LETTER A&E&I&O&YA&WA&BA+-2&PA&MA&NA+-2*E+-2&RA+-2&LA&KHA&HHA&SA+-2*E&
KA&QA&TA+-2*E+-2*O&DAwSYMBOL VIDJ:-2jCURSIVE LETTER AyEyIyOyYAyWAyBAyPAyMAyNAzEyRAyLAyKHAyHHAySA
yARCHAIC SAySEyKAyQAyTAzEzOyDA(109BC)rFRACTION ELEVEN TWELFTHS!ONE HALFrLOGOGRAM RMT!IMNrNUMBER 
ONEyTWOzHREEyFOURzIVEySIXzEVENyEIGHTyNINEyTENzWENTYzHIRTYyFORTYzIFTYySIXTYzEVENTY(109D2)yONE HUN
DREDyTWO HUNDREDzHREE HUNDREDyFOUR HUNDREDzIVE HUNDREDySIX HUNDREDzEVEN HUNDREDyEIGHT HUNDREDyNI
NE HUNDREDyONE THOUSANDyTWO THOUSANDzHREE THOUSANDyFOUR THOUSANDzIVE THOUSANDySIX THOUSANDzEVEN 
THOUSANDyEIGHT THOUSANDyNINE THOUSANDyTEN THOUSANDzWENTY THOUSANDzHIRTY THOUSANDyFORTY THOUSANDz
IFTY THOUSANDySIXTY THOUSANDzEVENTY THOUSANDyEIGHTY THOUSANDyNINETY THOUSANDyONE HUNDRED THOUSAN
DyTWO HUNDRED THOUSANDzHREE HUNDRED THOUSANDyFOUR HUNDRED THOUSANDzIVE HUNDRED THOUSANDySIX HUND
RED THOUSANDzEVEN HUNDRED THOUSANDyEIGHT HUNDRED THOUSANDyNINE HUNDRED THOUSANDrFRACTION ONE TWE
LFTH!TWO TWELFTHS$HREE TWELFTHS!FOUR TWELFTHS$IVE TWELFTHS!SIX TWELFTHS$EVEN TWELFTHS!EIGHT TWEL
FTHS!NINE TWELFTHS!TEN TWELFTHSaKHAROSHTHI LETTER AlVOWEL SIGN IwUwVOCALIC R(10A05)wEwO(10A0C)rL
ENGTH MARKlSIGN DOUBLE RING BELOWqANUSVARAqVISARGAlLETTER KAtHAsGAtHA(10A15)sCAtHAsJA(10A19)sNYA
sTTAuHAsDDAuHAsNNAsTAtHAsDAtHAsNAsPAtHAsBAtHAsMAsYAsRAsLAsVAsSHAtSAtAsZAsHAsKKAsTTTHAvAsVHA(10A3
8)lSIGN BAR ABOVEqCAUDAqDOT BELOW(10A3F)lVIRAMAlDIGIT ONErTWOsHREErFOURlNUMBER TENtWENTYsONE HUN
DREDwTHOUSANDlFRACTION ONE HALF(10A50)lPUNCTUATION DOTxSMALL CIRCLExCIRCLEyRESCENT BARxMANGALAMx
LOTUSxDANDAyOUBLE DANDAxLINES(10A60)aOLD SOUTH ARABIAN LETTER HEzLAMEDHzHETHzMEMzQOPHzWAWzSHINzR
ESHzBETHzTAWzSATzKAPHzNUNzKHETHzSADHE$MEKHzFEzALEF!YNzDHADHEzGIMELzDALETHzGHAYNzTETHzZAYNzDHALET
HzYODHzTHAW$ETHsNUMBER ONEzFIFTYvERIC INDICATOReNORTH ARABIAN LETTER HEHzLAMzHAHzMEEMzQAFzWAWzES
-2zREHzBEHzTEHzES-1zKAFzNOONzKHAHzSADzES-3zFEHzALEF!INzDADzGEEMzDALzGHAINzTAHzZAINzTHALzYEHzTHEH
zZAHsNUMBER ONEzTEN!WENTY(10AC0)aMANICHAEAN LETTER ALEPHsBETHtHETHsGIMELtHIMELsDALETHsHEsWAWlSIG
N UDlLETTER ZAYINtHAYINsJAYINtHAYINsHETHsTETHsYODHsKAPHsXAPHsKHAPHsLAMEDHsDHAMEDHsTHAMEDHsMEMsNU
NsSAMEKHsAYINtAYINsPEsFEsSADHEsQOPHsXOPHsQHOPHsRESHsSHINtSHINsTAWlABBREVIATION MARK ABOVE&BELOW(
10AEB)lNUMBER ONEsFIVEsTENtWENTYsONE HUNDREDlPUNCTUATION STARxFLEURONxDOUBLE DOT WITHIN DOTzT WI
THIN DOT!xTWO DOTSxLINE FILLER(10B00)aAVESTAN LETTER AqAqOqAOqNqANqErEpEqEpOqOpIqIpUqUpKEpXEqYEq
VEpGEqGEqHEpCEpJEpTEqHEpDEqHEpTTEpPEpFEpBEqHEpNGErYErVEqEqYEqNEpMEpHMEpYYEqEpVEpREpLEpSEpZEpSHEp
ZHEpSHYEqSHEpHE(10B39)iABBREVIATION MARKaTINY TWO DOTS OVER ONE DOT PUNCTUATIONaSMALL TWO DOTS O
VER ONE DOT PUNCTUATIONaLARGE TWO DOTS OVER ONE DOT PUNCTUATIONgONE DOT OVER TWO DOTS PUNCTUATIO
NgTWO RINGS OVER ONE RING PUNCTUATIONgONE RING OVER TWO RINGS PUNCTUATIONaINSCRIPTIONAL PARTHIAN
 LETTER ALEPH*BETH*GIMEL*DALETH*HE*WAW*ZAYIN*HETH*TETH*YODH*KAPH*LAMEDH*MEM*NUN*SAMEKH*AYIN*PE*S
ADHE*QOPH*RESH*SHIN*TAW(10B58)xNUMBER ONE*TWO+HREE*FOUR*TEN+WENTY*ONE HUNDRED;THOUSANDqHLAVI LET
TER ALEPH&BETH&GIMEL&DALETH&HE&WAW-AYIN-RESH&ZAYIN&HETH&TETH&YODH&KAPH&LAMEDH&MEM-QOPH&NUN&SAMEK
H&PE&SADHE*HIN&TAW(10B78)wNUMBER ONE&TWO*HREE&FOUR&TEN*WENTY&ONE HUNDRED:THOUSANDaPSALTER PAHLAV
I LETTER ALEPHxBETHxGIMELxDALETHxHExWAW-AYIN-RESHxZAYINxHETHxYODHxKAPHxLAMEDHxMEM-QOPHxNUNxSAMEK
HxPExSADHEyHINxTAW(10B99)qSECTION MARKqTURNED SECTION MARKqFOUR DOTS WITH CROSS+DOT(10BA9)qNUMBE
R ONExTWOyHREExFOURxTENyWENTYxONE HUNDRED(10C00)aOLD TURKIC LETTER ORKHON AsYENISEI A$EsORKHON I
sYENISEI I!EsORKHON O!EsYENISEI OEsORKHON ABsYENISEI ABsORKHON AEBsYENISEI AEBsORKHON AGsYENISEI
 AGsORKHON AEGsYENISEI AEGsORKHON ADsYENISEI ADsORKHON AEDzEZsYENISEI EZsORKHON AYsYENISEI AYsOR
KHON AEYsYENISEI AEYsORKHON AEKsYENISEI AEKsORKHON OEKsYENISEI OEKsORKHON ALsYENISEI ALsORKHON A
ELzELT!MzAN!ENsYENISEI AENsORKHON ENTsYENISEI ENTsORKHON ENCsYENISEI ENCsORKHON ENYsYENISEI ENY!
ANGsORKHON ENGsYENISEI AENGsORKHON EPzOPzICzECsYENISEI ECsORKHON AQsYENISEI AQsORKHON IQsYENISEI
 IQsORKHON OQsYENISEI OQsORKHON ARsYENISEI ARsORKHON AER!S!ES!SHsYENISEI ASHsORKHON ESHsYENISEI 
ESHsORKHON ATsYENISEI ATsORKHON AETsYENISEI AETsORKHON OTzBASH(10C80)eHUNGARIAN CAPITAL LETTER A
*A&EB&AMB&EC*NC*CS*D&AND&E&CLOSE E&EE*F*G+Y*H&I*I&EJ*K&AK&UNK&EL+Y*M*N+Y&O*O&NIKOLSBURG OE&RUDIM
ENTA OE&OEE&EP*MP*R&SHORT ER&ES+Z*T*NT*TY*CH&U*U&NIKOLSBURG UE&RUDIMENTA UE&EV*Z+S*NT-SHAPED SIG
N&US(10CC0)oSMALL LETTER A%A$EB$AMB$EC%NC%CS%D$AND$E$CLOSE E$EE%F%G&Y%H$I%I$EJ%K$AK$UNK$EL&Y%M%N
&Y$O%O$NIKOLSBURG OE$RUDIMENTA OE$OEE$EP%MP%R$SHORT ER$ES&Z%T%NT%TY%CH$U%U$NIKOLSBURG UE$RUDIMEN
TA UE$EV%Z&S%NT-SHAPED SIGN$US(10CFA)oNUMBER ONEvFIVEvTENvFIFTYvONE HUNDREDzTHOUSANDaHANIFI ROHI
NGYA LETTER AxBAxPAxTAyTAxJAxCAxHAxKHAxFAxDAyDAxRAyRAxZAxSAyHAxKAxGAxLAxMAxNAxWAxKINNA WAxYAxKIN
NA YAxNGAyYAxVAqVOWEL AwIwUwEwOqMARK SAKINvNA KHONNAqSIGN HARBAHAYvTAHALAxNAxSSI(10D30)qDIGIT ZE
ROwONEwTWOxHREEwFOURxIVEwSIXxEVENwEIGHTwNINE(10E60)aRUMI DIGIT ONElTWOmHREElFOURmIVElSIXmEVENlEI
GHTlNINEfNUMBER TENnWENTYnHIRTYmFORTYnIFTYmSIXTYnEVENTYmEIGHTYmNINETYmONE HUNDREDmTWO HUNDREDnHR
EE HUNDREDmFOUR HUNDREDnIVE HUNDREDmSIX HUNDREDnEVEN HUNDREDmEIGHT HUNDREDmNINE HUNDREDfFRACTION
 ONE HALFsQUARTERsTHIRDoTWO THIRDS(10E80)aYEZIDI LETTER ELIFoBEoPEpHEoTHEoSEoCIMpHIMqHIMoHHAoXAo
DALoZALoRApHAoZAoJAoSINpHINpADoDADoTAoZEoEYNoXHEYNoFAoVAq ALTERNATE FORMoQAFoKAFpHAFoGAFoLAMoMIM
oNUNoUMoWAWoOWoEWoHAYoYOToET(10EAB)hCOMBINING HAMZA MARKrMADDA MARKhHYPHENATION MARK(10EB0)hLETT
ER LAM WITH DOT ABOVEoYOT WITH CIRCUMFLEX ABOVE(10F00)aOLD SOGDIAN LETTER ALEPHtFINAL ALEPHtBETH
tFINAL BETHtGIMELtHEtFINAL HEtWAWtZAYINtHETHtYODHtKAPHtLAMEDHtMEMtNUNtFINAL NUN% WITH VERTICAL T
AILtSAMEKHtAYINuLTERNATE AYINtPEtSADHEtFINAL SADHE* WITH VERTICAL TAILtRESH-AYIN-DALETHtSHINtTAW
tFINAL TAW% WITH VERTICAL TAILmNUMBER ONEtTWOuHREEtFOURuIVEtTENuWENTYuHIRTYtONE HUNDREDmFRACTION
 ONE HALFmLIGATURE AYIN-DALETH(10F30)aSOGDIAN LETTER ALEPHpBETHpGIMELpHEpWAWpZAYINpHETHpYODHpKAP
HpLAMEDHpMEMpNUNpSAMEKHpAYINpPEpSADHEpRESH-AYINpSHINpTAWpFETHpLESHiINDEPENDENT SHINiCOMBINING DO
T BELOWsTWO DOTS BELOWsDOT ABOVEsTWO DOTS ABOVEsCURVE ABOVEyBELOWsHOOK ABOVExBELOWsLONG HOOK BEL
OWsRESH BELOWsSTROKE BELOWiNUMBER ONEpTENqWENTYpONE HUNDREDiPUNCTUATION TWO VERTICAL BARS> WITH 
DOTSuCIRCLE WITH DOTuTWO CIRCLES WITH DOTSuHALF CIRCLE WITH DOT(10F70)aOLD UYGHUR LETTER ALEPHsB
ETHsGIMEL-HETHsWAWsZAYINsFINAL HETHsYODHsKAPHsLAMEDHsMEMsNUNsSAMEKHsPEsSADHEsRESHsSHINsTAWsLESHl
COMBINING DOT ABOVEzBELOWvTWO DOTS ABOVE*BELOWlPUNCTUATION BARxTWO BARS$DOTSxFOUR DOTS(10FB0)aCH
ORASMIAN LETTER ALEPHsSMALL ALEPHsBETHsGIMELsDALETHsHEsWAWsCURLED WAWsZAYINsHETHsYODHsKAPHsLAMED
HsMEMsNUNsSAMEKHsAYINsPEsRESHsSHINsTAWlNUMBER ONEsTWOtHREEsFOURsTENtWENTYsONE HUNDRED(10FE0)aELY
MAIC LETTER ALEPHpBETHpGIMELpDALETHpHEpWAWpZAYINpHETHpTETHpYODHpKAPHpLAMEDHpMEMpNUNpSAMEKHpAYINp
PEpSADHEpQOPHpRESHpSHINpTAWjIGATURE ZAYIN-YODH(11000)aBRAHMI SIGN CANDRABINDUmANUSVARAmVISARGAmJ
IHVAMULIYAmUPADHMANIYAhLETTER ApAoIpIoUpUoVOCALIC RxRwLxLoEoAIoOoAUoKApHAoGApHAoNGAoCApHAoJApHAo
NYAoTTAqHAoDDAqHAoNNAoTApHAoDApHAoNAoPApHAoBApHAoMAoYAoRAoLAoVAoSHApSApAoHAoLLAoOLD TAMIL LLLAyR
RAyNNNAhVOWEL SIGN AAsBHATTIPROLU AAsItIsUtUsVOCALIC R$R!L$LsEsAIsOsAUiIRAMAhDANDAiOUBLE DANDAhP
UNCTUATION DOTvUBLE DOTtLINEtCRESCENT BARtLOTUS(11052)hNUMBER ONEoTWOpHREEoFOURpIVEoSIXpEVENoEIG
HToNINEoTENpWENTYpHIRTYoFORTYpIFTYoSIXTYpEVENTYoEIGHTYoNINETYoONE HUNDREDsTHOUSANDhDIGIT ZEROnON
EnTWOoHREEnFOURoIVEnSIXoEVENnEIGHTnNINEhSIGN OLD TAMIL VIRAMAhLETTER OLD TAMIL SHORT E*OhVOWEL S
IGN OLD TAMIL SHORT E;OhLETTER OLD TAMIL LLA(1107F)hNUMBER JOINERaKAITHI SIGN CANDRABINDUmANUSVA
RAmVISARGAhLETTER ApAoIpIoUpUoEoAIoOoAUoKApHAoGApHAoNGAoCApHAoJApHAoNYAoTTAqHAoDDAqDHAqHAoRHAoNN
AoTApHAoDApHAoNAoPApHAoBApHAoMAoYAoRAoLAoVAoSHApSApAoHAhVOWEL SIGN AAsItIsUtUsEsAIsOsAUhSIGN VIR
AMAmNUKTAhABBREVIATION SIGNhENUMERATION SIGNhNUMBER SIGNhSECTION MARKhDOUBLE SECTION MARKiANDAiO
UBLE DANDAhVOWEL SIGN VOCALIC R(110CD)hNUMBER SIGN ABOVE(110D0)aSORA SOMPENG LETTER SAHuTAHuBAHu
CAHuDAHuGAHuMAHuNGAHuLAHuNAHuVAHuPAHuYAHuRAHuHAHuKAHuJAHuNYAHuAHuEEHuIHuUHuOHuEHuMAE(110F0)nDIGI
T ZEROtONEtTWOuHREEtFOURuIVEtSIXuEVENtEIGHTtNINE(11100)aCHAKMA SIGN CANDRABINDUmANUSVARAmVISARGA
hLETTER AAoIoUoEoKAApHAAoGAApHAAoNGAAoCAApHAAoJAApHAAoNYAAoTTAAqHAAoDDAAqHAAoNNAAoTAApHAAoDAApHA
AoNAAoPAApHAAoBAApHAAoMAAoYYAApAAoRAAoLAAoWAAoSAAoHAAhVOWEL SIGN AsItIsUtUsEsAIsOsAUsOIhO MARKhA
U MARKhVIRAMAhMAAYYAA(11136)hDIGIT ZEROnONEnTWOoHREEnFOURoIVEnSIXoEVENnEIGHTnNINEhSECTION MARKhD
ANDAiOUBLE DANDAhQUESTION MARKhLETTER LHAAhVOWEL SIGN AAsEIhLETTER VAA(11150)aMAHAJANI LETTER Aq
IqUqEqOqKArHAqGArHAqCArHAqJArHAqNYAqTTAsHAqDDAsHAqNNAqTArHAqDArHAqNAqPArHAqBArHAqMAqRAqLAqVAqSAq
HAqRRAjSIGN NUKTAjABBREVIATION SIGNjSECTION MARKjLIGATURE SHRI(11180)aSHARADA SIGN CANDRABINDUnA
NUSVARAnVISARGAiLETTER AqApIqIpUqUpVOCALIC RyRxLyLpEpAIpOpAUpKAqHApGAqHApNGApCAqHApJAqHApNYApTTA
rHApDDArHApNNApTAqHApDAqHApNApPAqHApBAqHApMApYApRApLAqLApVApSHAqSAqApHAiVOWEL SIGN AAtIuItUuUtVO
CALIC R%R$L%LtEtAItOtAUiSIGN VIRAMAnAVAGRAHAnJIHVAMULIYAnUPADHMANIYAiOMiDANDAjOUBLE DANDAiABBREV
IATION SIGNiSEPARATORjANDHI MARKjIGN NUKTAiVOWEL MODIFIER MARKiEXTRA SHORT VOWEL MARKiSUTRA MARK
iVOWEL SIGN PRISHTHAMATRA EiSIGN INVERTED CANDRABINDUiDIGIT ZEROoONEoTWOpHREEoFOURpIVEoSIXpEVENo
EIGHToNINEiEKAMiSIGN SIDDHAMiHEADSTROKEiCONTINUATION SIGNiSECTION MARK-1v2(111E1)bINHALA ARCHAIC
 DIGIT ONEwTWOxHREEwFOURxIVEwSIXxEVENwEIGHTwNINEqNUMBER TENyWENTYyHIRTYxFORTYyIFTYxSIXTYyEVENTYx
EIGHTYxNINETYxONE HUNDRED$THOUSAND(11200)aKHOJKI LETTER ApAoIoUoEoAIoOoAUoKApHAoGApGApHAoNGAoCAp
HAoJApJA(11213)oNYAoTTAqHAoDDAqHAoNNAoTApHAoDApDDApHAoNAoPApHAoBApBApHAoMAoYAoRAoLAoVAoSAoHAoLLA
hVOWEL SIGN AAsItIsUsEsAIsOsAUhSIGN ANUSVARAmVIRAMAmNUKTAmSHADDAhDANDAiOUBLE DANDAhWORD SEPARATO
RhSECTION MARKhDOUBLE SECTION MARKhABBREVIATION SIGNhSIGN SUKUN(11280)aMULTANI LETTER ApIpUpEpKA
qHApGA(11288)qHA(1128A)pCAqHApJAqJA(1128F)pNYApTTArHApDDArDArHApNNApTAqHApDAqHApNApPAqHApBA(1129
F)qHApMApYApRApLApVApSApHApRRAqHAiSECTION MARK(112B0)aKHUDAWADI LETTER AsArIsIrUsUrErAIrOrAUrKAs
HArGAsGAsHArNGArCAsHArJAsJAsHArNYArTTAtHArDDAtDArRRArDDHArNNArTAsHArDAsHArNArPAsHArBAsBAsHArMArY
ArRArLArVArSHAsArHAkSIGN ANUSVARAkVOWEL SIGN AAvIwIvUwUvEvAIvOvAUkSIGN NUKTApVIRAMA(112F0)kDIGIT
 ZEROqONEqTWOrHREEqFOURrIVEqSIXrEVENqEIGHTqNINE(11300)aGRANTHA SIGN COMBINING ANUSVARA ABOVEoAND
RABINDUnANUSVARAnVISARGA(11305)iLETTER AqApIqIpUqUpVOCALIC RxL(1130F)pEEpAI(11313)pOOpAUpKAqHApG
AqHApNGApCAqHApJAqHApNYApTTArHApDDArHApNNApTAqHApDAqHApNA(1132A)pPAqHApBAqHApMApYApRA(11332)pLAq
LA(11335)pVApSHAqSAqApHA(1133B)aCOMBINING BINDU BELOWaGRANTHA SIGN NUKTAnAVAGRAHAiVOWEL SIGN AAt
IuItUuUtVOCALIC R%R(11347)tEEtAI(1134B)tOOtAUiSIGN VIRAMA(11350)iOM(11357)iAU LENGTH MARK(1135D)
iSIGN PLUTAiLETTER VEDIC ANUSVARAvDOUBLE ANUSVARAqOCALIC RRxLLiVOWEL SIGN VOCALIC L%L(11366)aCOM
BINING GRANTHA DIGIT ZEROyONEyTWOzHREEyFOURzIVEySIX(11370)sLETTER AzKAzNAzVIzPA(11400)aNEWA LETT
ER AnAmInImUnUmVOCALIC RvRuLvLmEmAImOmAUmKAnHAmGAnHAmNGAoHAmCAnHAmJAnHAmNYAoHAmTTAoHAmDDAoHAmNNA
mTAnHAmDAnHAmNAnHAmPAnHAmBAnHAmMAnHAmYAmRAnHAmLAnHAmWAmSHAnSAnAmHAfVOWEL SIGN AAqIrIqUrUqVOCALIC
 RzRyLzLqEqAIqOqAUfSIGN VIRAMAkCANDRABINDUkANUSVARAkVISARGAkNUKTAkAVAGRAHAkFINAL ANUSVARAfOMfSID
DHIfDANDAgOUBLE DANDAfCOMMAfGAP FILLERfABBREVIATION SIGNfDIGIT ZEROlONElTWOmHREElFOURmIVElSIXmEV
ENlEIGHTlNINEgOUBLE COMMAfPLACEHOLDER MARK(1145D)fINSERTION SIGNfSANDHI MARKfLETTER VEDIC ANUSVA
RAfSIGN JIHVAMULIYAkUPADHMANIYA(11480)aTIRHUTA ANJIiLETTER AqApIqIpUqUpVOCALIC RyRxLyLpEpAIpOpAU
pKAqHApGAqHApNGApCAqHApJAqHApNYApTTArHApDDArHApNNApTAqHApDAqHApNApPAqHApBAqHApMApYApRApLApVApSHA
qSAqApHAiVOWEL SIGN AAtIuItUuUtVOCALIC R%R$L%LtEtSHORT EtAItOtSHORT OtAUiSIGN CANDRABINDUnANUSVA
RAnVISARGApRAMAnNUKTAnAVAGRAHAiGVANGiABBREVIATION SIGNiOM(114D0)iDIGIT ZEROoONEoTWOpHREEoFOURpIV
EoSIXpEVENoEIGHToNINE(11580)aSIDDHAM LETTER AqApIqIpUqUpVOCALIC RyRxLyLpEpAIpOpAUpKAqHApGAqHApNG
ApCAqHApJAqHApNYApTTArHApDDArHApNNApTAqHApDAqHApNApPAqHApBAqHApMApYApRApLApVApSHAqSAqApHAiVOWEL 
SIGN AAtIuItUuUtVOCALIC R%R(115B8)tEtAItOtAUiSIGN CANDRABINDUnANUSVARAnVISARGApRAMAnNUKTAnSIDDHA
MiDANDAjOUBLE DANDAiSEPARATOR DOTsBARiREPETITION MARK-1y2y3iEND OF TEXT MARKiSECTION MARK WITH T
RIDENT AND U-SHAPED ORNAMENTS?DOTTED CRESCENTS!RAYS AND DOTTED CRESCENTS_ DOUBLE CRESCENTS_ TRIP
LE CRESCENTSvDOUBLE RING, WITH RAYSvWITH DOUBLE CRESCENTS!TRIPLE CRESCENTS!QUADRUPLE CRESCENTS!S
EPTUPLE CRESCENTS!CIRCLES AND RAYS?TWO ENCLOSURES?FOUR ENCLOSURESiLETTER THREE-CIRCLE ALTERNATE 
IqWO-CIRCLE ALTERNATE I>IpALTERNATE UiVOWEL SIGN ALTERNATE U*U(11600)aMODI LETTER AnAmInImUnUmVO
CALIC RvRuLvLmEmAImOmAUmKAnHAmGAnHAmNGAmCAnHAmJAnHAmNYAmTTAoHAmDDAoHAmNNAmTAnHAmDAnHAmNAmPAnHAmB
AnHAmMAmYAmRAmLAmVAmSHAnSAnAmHAmLLAfVOWEL SIGN AAqIrIqUrUqVOCALIC RzRyLzLqEqAIqOqAUfSIGN ANUSVAR
AkVISARGAmRAMAkARDHACANDRAfDANDAgOUBLE DANDAfABBREVIATION SIGNfSIGN HUVA(11650)fDIGIT ZEROlONElT
WOmHREElFOURmIVElSIXmEVENlEIGHTlNINE(11660)cNGOLIAN BIRGA WITH ORNAMENTkROTATED BIRGAkDOUBLE BIR
GA WITH ORNAMENTkTRIPLE BIRGA WITH ORNAMENTkBIRGA WITH DOUBLE ORNAMENTkROTATED BIRGA WITH ORNAME
NT&DOUBLE ORNAMENTkINVERTED BIRGAy WITH DOUBLE ORNAMENTkSWIRL BIRGAv WITH ORNAMENT$DOUBLE ORNAME
NTkTURNED SWIRL BIRGA WITH DOUBLE ORNAMENT(11680)aTAKRI LETTER AoAnIoInUoUnEnAInOnAUnKAoHAnGAoHA
nNGAnCAoHAnJAoHAnNYAnTTApHAnDDApHAnNNAnTAoHAnDAoHAnNAnPAoHAnBAoHAnMAnYAnRAnLAnVAnSHAoAnHAnRRAgSI
GN ANUSVARAlVISARGAgVOWEL SIGN AArIsIrUsUrErAIrOrAUgSIGN VIRAMAlNUKTAgLETTER ARCHAIC KHAgABBREVI
ATION SIGN(116C0)gDIGIT ZEROmONEmTWOnHREEmFOURnIVEmSIXnEVENmEIGHTmNINE(11700)aAHOM LETTER KAnHAm
NGAnAmTAmALTERNATE TAmPAnHAmBAmMAmJAmCHAmTHAmRAmLAmSAmNYAmHAmAmDAnHAmGAmALTERNATE GAmGHAmBHAmJHA
mALTERNATE BA(1171D)fCONSONANT SIGN MEDIAL LA$RA$LIGATING RAfVOWEL SIGN ArAqIrIqUrUqEqAWqOqAIrMf
SIGN KILLER(11730)fDIGIT ZEROlONElTWOmHREElFOURmIVElSIXmEVENlEIGHTlNINEfNUMBER TENnWENTYfSIGN SM
ALL SECTIONlECTIONkRULAIgYMBOL VIfLETTER CAmTTAoHAmDDAoHAmNNAmLLA(11800)aDOGRA LETTER AoAnIoInUo
UnEnAInOnAUnKAoHAnGAoHAnNGAnCAoHAnJAoHAnNYAnTTApHAnDDApHAnNNAnTAoHAnDAoHAnNAnPAoHAnBAoHAnMAnYAnR
AnLAnVAnSHAoSAoAnHAnRRAgVOWEL SIGN AArIsIrUsUrVOCALIC R!RrErAIrOrAUgSIGN ANUSVARAlVISARGAnRAMAlN
UKTAgABBREVIATION SIGN(118A0)aWARANG CITI CAPITAL LETTER NGAA$A$WI$YU%A%O$II$UU$E$O$ANG$GA$KO$EN
Y$YUJ$UC$ENN$ODD$TTE$NUNG$DA$AT%M$BU$PU$HIYO%OLO&RR%AR$SSUU%II$VIYOmSMALL LETTER NGAAzAzWIzYU!A!
OzIIzUUzEzOzANGzGAzKOzENYzYUJzUCzENNzODDzTTEzNUNGzDAzAT!MzBUzPUzHIYO!OLO$RR!ARzSSUU!IIzVIYOmDIGI
T ZEROsONEsTWOtHREEsFOURtIVEsSIXtEVENsEIGHTsNINEmNUMBER TENuWENTYuHIRTYtFORTYuIFTYtSIXTYuEVENTYt
EIGHTYtNINETY(118FF)mOMaDIVES AKURU LETTER AuAtIuItUuUtE(11909)tO(1190C)tKAuHAtGAuHAtNGAtCAuHAtJ
A(11915)tNYAtTTA(11918)tDDAvHAtNNAtTAuHAtDAuHAtNAtPAuHAtBAuHAtMAtYAuYAtRAtLAtVAtSHAuSAuAtHAtLLAt
ZAmVOWEL SIGN AAxIyIxUyUxE(11937)xAIxO(1193B)mSIGN ANUSVARArCANDRABINDUrHALANTAmVIRAMAmPREFIXED 
NASAL SIGNmMEDIAL YAmINITIAL RAmMEDIAL RAmSIGN NUKTAmDOUBLE DANDAmGAP FILLERmEND OF TEXT MARK(11
950)mDIGIT ZEROsONEsTWOtHREEsFOURtIVEsSIXtEVENsEIGHTsNINE(119A0)aNANDINAGARI LETTER AuAtIuItUuUt
VOCALIC R%R(119AA)tEtAItOtAUtKAuHAtGAuHAtNGAtCAuHAtJAuHAtNYAtTTAvHAtDDAvHAtNNAtTAuHAtDAuHAtNAtPA
uHAtBAuHAtMAtYAtRAtLAtVAtSHAuSAuAtHAtLLAtRRAmVOWEL SIGN AAxIyIxUyUxVOCALIC R,R(119DA)xExAIxOxAUm
SIGN ANUSVARArVISARGAtRAMArAVAGRAHArSIDDHAMmHEADSTROKEmVOWEL SIGN PRISHTHAMATRA E(11A00)aZANABAZ
AR SQUARE LETTER ArVOWEL SIGN I%UE&%E%OE&%AI&U%REVERSED IxLENGTH MARKrLETTER KAzHAyGAzHAyNGAyCAz
HAyJAyNYAyTTA!HAyDDA!HAyNNAyTAzHAyDAzHAyNAyPAzHAyBAzHAyMAyTSA!HAyDZA!HAyZHAzAy-AyYAyRAyLAyVAySHA
zSAzAyHAyKSSArFINAL CONSONANT MARKrSIGN VIRAMAwCANDRABINDU: WITH ORNAMENT% WITH ORNAMENTwANUSVAR
AwVISARGArCLUSTER-INITIAL LETTER RAzFINAL LETTER YA?RA?LA?VArINITIAL HEAD MARKrCLOSING HEAD MARK
rMARK TSHEGwSHADwDOUBLE SHADwLONG TSHEGrINITIAL DOUBLE-LINED HEAD MARKrCLOSING DOUBLE-LINED HEAD
 MARKrSUBJOINER(11A50)aSOYOMBO LETTER AiVOWEL SIGN ItUEutEtOuEtAIuUtVOCALIC R$LoLENGTH MARKiLETT
ER KAqHApGAqHApNGApCAqHApJAqHApNYApTTArHApDDArHApNNApTAqHApDAqHApNApPAqHApBAqHApMApTSArHApDZApZH
AqAp-ApYApRApLApVApSHAqSAqApHApKSSAiSIGN JIHVAMULIYAnUPADHMANIYAiCLUSTER-INITIAL LETTER RA+LA+SH
A,AiFINAL CONSONANT SIGN G&K&NG&D&N&B&M&R&L&SH*&-AiSIGN ANUSVARAnVISARGAiGEMINATION MARKiSUBJOIN
ERiMARK TSHEGnSHADnDOUBLE SHADnPLUTAiHEAD MARK WITH MOON AND SUN AND TRIPLE FLAME^FLAME<iTERMINA
L MARK-1w2(11AB0)aCANADIAN SYLLABICS NATTILIK HI*I&O*O&A*A%SHRI,I+O,O+A,AtSPEvIvOvAaPAU CIN HAU 
LETTER PAtKAtLAtMAtDAtZAtVAtNGAtHAtGAtKHAtSAtBAtCAtTAuHAtNAtPHAtRAtFAtCHAtAtEtItOtUuAtIAtFINAL P
zKzTzMzNzLzWzNGzYmRISING TONE LONGxmSANDHI GLOTTAL STOPmRISING TONE LONG FINALyFINALmSANDHI GLOT
TAL STOP FINALtTONE LONGxx LONG FINALyFINALmMID-LEVEL TONEmGLOTTAL STOP VARIANTmMID-LEVEL TONE L
ONG FINAL$FINALmLOW-FALLING TONE LONG%mGLOTTAL STOPmLOW-FALLING TONE LONG FINAL&FINALmGLOTTAL ST
OP FINAL(11C00)aBHAIKSUKI LETTER AsArIsIrUsUrVOCALIC R!RzL(11C0A)rErAIrOrAUrKAsHArGAsHArNGArCAsH
ArJAsHArNYArTTAtHArDDAtHArNNArTAsHArDAsHArNArPAsHArBAsHArMArYArRArLArVArSHAsSAsArHAkVOWEL SIGN A
AvIwIvUwUvVOCALIC R*R&L(11C38)vEvAIvOvAUkSIGN CANDRABINDUpANUSVARApVISARGArRAMApAVAGRAHAkDANDAlO
UBLE DANDAkWORD SEPARATORkGAP FILLER-1v2(11C50)kDIGIT ZEROqONEqTWOrHREEqFOURrIVEqSIXrEVENqEIGHTq
NINEkNUMBER ONErTWOsHREErFOURsIVErSIXsEVENrEIGHTrNINErTENsWENTYsHIRTYrFORTYsIFTYrSIXTYsEVENTYrEI
GHTYrNINETYkHUNDREDS UNIT MARK(11C70)aMARCHEN HEAD MARKiMARK SHADiLETTER KAqHApGApNGApCAqHApJApN
YApTAqHApDApNApPAqHApBApMApTSArHApDZApWApZHAqAp-ApYApRApLApSHAqApHApA(11C92)iSUBJOINED LETTER KA
!HAzGAzNGAzCA!HAzJAzNYAzTA!HAzDAzNAzPA!HAzBAzMAzTSA$HAzDZAzWAzZHA!A(11CA9)zYAzRAzLAzSHA!AzHAzAiV
OWEL SIGN AAtItUtEtOiSIGN ANUSVARAnCANDRABINDU(11D00)cSARAM GONDI LETTER AwAvIwIvUwUvE(11D08)vAI
vO(11D0B)vAUvKAwHAvGAwHAvNGAvCAwHAvJAwHAvNYAvTTAxHAvDDAxHAvNNAvTAwHAvDAwHAvNAvPAwHAvBAwHAvMAvYAv
RAvLAvVAvSHAwSAwAvHAvLLAvKSSAvJNYAvTRAoVOWEL SIGN AAzI!IzU!UzVOCALIC R(11D3A)zE(11D3C)zAIzO(11D3
F)zAUoSIGN ANUSVARAtVISARGAtNUKTAtCANDRAtHALANTAoVIRAMAoREPHApA-KARA(11D50)oDIGIT ZEROuONEuTWOvH
REEuFOURvIVEuSIXvEVENuEIGHTuNINE(11D60)aGUNJALA GONDI LETTER AwAvIwIvUwU(11D67)vEEvAI(11D6A)vOOv
AUvYAvVAvBAwHAvMAvKAwHAvTAwHAvLAvGAwHAvDAwHAvNAvCAwHAvTTAxHAvLLAvJAwHAvDDAxHAvNGAvPAwHAvHAvRAvSA
oVOWEL SIGN AAzI!IzU!U(11D90)zEEzAI(11D93)zOOzAUoSIGN ANUSVARAtVISARGAoVIRAMAoOM(11DA0)oDIGIT ZE
ROuONEuTWOvHREEuFOURvIVEuSIXvEVENuEIGHTuNINE(11EE0)aMAKASAR LETTER KApGApNGApPApBApMApTApDApNApC
ApJApNYApYApRApLApVApSApAiANGKAiVOWEL SIGN ItUtEtOiPASSIMBANGiEND OF SECTION(11FB0)aLISU LETTER 
YHA(11FC0)aTAMIL FRACTION ONE THREE-HUNDRED-AND-TWENTIETHtONE-HUNDRED-AND-SIXTIETHtEIGHTIETHtSIX
TY-FOURTHtFORTIETHtTHIRTY-SECONDpTHREE EIGHTIETHSvSIXTY-FOURTHSpONE TWENTIETHtSIXTEENTH-1&2tTENT
HtEIGHTHpTHREE TWENTIETHSvSIXTEENTHSpONE FIFTHtQUARTERtHALF-1y2pTHREE QUARTERSpDOWNSCALING FACTO
R KIIZHgSIGN NELlCEVITUlAAZHAAKKUlUZHAKKUlMUUVUZHAKKUlKURUNIlPATHAKKUlMUKKURUNIlKAACUlPANAMmONlV
ARAAKANlPAARAMlKUZHIlVELIgWET CULTIVATION SIGNgDRY CULTIVATION SIGNgLAND SIGNgSALT PAN SIGNgTRAD
ITIONAL CREDIT SIGNsNUMBER SIGNgCURRENT SIGNgAND ODD SIGNgSPENT SIGNgTOTAL SIGNgIN POSSESSION SI
GNgSTARTING FROM SIGNhIGN MUTHALIYAlVAKAIYARAA(11FFF)gPUNCTUATION END OF TEXTaCUNEIFORM SIGN Aq 
TIMES AxBADxGAN2 TENUxHAxIGIxLAGAR GUNUxMUSHxSAGq2qBr TIMES ASH2yDUN3 GUNUyGAL!N2 TENUyHAyIGI GU
NUzMINyLAGABySHESHyU PLUS U PLUS UsGUNUr2s TIMES BALAGzGAN2 TENUzME PLUS ENzSHA3zTAK4qDqKr TIMES
 ERIN2ySHITA PLUS GISHqLr TIMES ALyDIM2yGISHyHAyKAD3zIySHEyUSHrANrEPHqMARt TIMES SHEqNr OVER ANs
THREE TIMESsPLUS NAGA OPPOSING AN PLUS NAGA%SQUAREDrSHEqPINqRADt TIMES KURrKABqSAL2rHs ZIDA TENU
tKABA TENUtOVER ASH TUG2 OVER TUG2 TUG2 OVER TUG2 PAP%OVER ASH= CROSSING ASH OVER ASH OVER ASHs2
sGABpBArDrG3rHAR2rLs OVER BALsAGrRsA2qIr TIMES AyGARyIGI GUNUqUr OVER BU AB!UNsCROSSING BUrLUGu 
OVER BULUGrRs2pDArGs KISIM5 TIMES A PLUS MASH:MAR,BALAG:I,GA; PLUS MASH:I;R2:UD,HA,IR; PLUS LU,K
AK,LA:U; PLUS MASH2;M,NE,PAP PLUS PAP,SI,TAK4,U2 PLUS GIR2:SHrMrRsA3t4qIrBrMs TIMES SHEs2rNs KAS
KAL U GUNU DISHrSHqUr OVER DUsGUNUsSHESHIGrBs TIMES ESH2s2rGsUDrHrNs3t GUNUy GUNUs4rR2pEq TIMES 
PAPrOVER E NUN OVER NUNq2r TIMES A PLUS HA PLUS DAyGARyMIySALzHEyUqDINqGIRqLqNr TIMES GAN2% TENU
yMEsCROSSING ENsOPPOSING ENsSQUAREDqRENrIN2qSH2qZENt TIMES A$ PLUS LAL= TIMES LAL$N!BAD!DUN3 GUN
U< GUNU!HA% GUNU!IGI GUNU!KASKAL, SQUARED$U3!LA%L TIMES LAL$I$U!U2$DpGAr GUNUr2s TIMES A PLUS DA
 PLUS HA,HA,IGI!B2 TENU PLUS TAB!N!SH%2 PLUS GALzBAD$R PLUS RA!UR% PLUS RAzDA!I$M TIMES SHE!UBzE
L$ PLUS LA!N$ TIMES GAN2 TENUzGAN2 TENU$R!I$4% PLUS A$R2 PLUS SUzHA PLUS LU PLUS ESH2$L% PLUS LA
!I PLUS LI!UB2zIGI GUNU!SH PLUS HU PLUS ASHzKAK$SKAL!ID% PLUS LAL!U3 PLUS ANzLAzME PLUS EN!IzNUN
% OVER NUNzPAzSAL$R!HE% PLUS TUR$ID!UMzTAK4zU!D$ PLUS DUtOVER GA2rBAt CROSSING GABArDs OVER GAD 
GAR OVER GARrLs GAD OVER GAD GAR OVER GARsAMrMrNs2t TENUuOVER GAN2uCROSSING GAN2rRs3rSHANqESHTIN
w TIMES KURqIr TIMES EyUsCROSSING GIr4s OVER GI4tCROSSING GI4rDIMrR2t GUNUs3t TIMES A PLUS IGI!G
AN2 TENU!IGI!LU PLUS IGI!PArSALsHt CROSSING GISHuTIMES BAD!TAK4vENUqUr CROSSING GUr2s TIMES KAK%
 TIMES IGI GUNUzNUNzSAL PLUS TUG2tGUNUrDs TIMES A PLUS KURzKURtOVER GUD LUGALrLrMs TIMES SHErRs7
sUNtSHpHAr TENUsGUNUrLqIr TIMES ASH$2yBADyDISHyGADyKINyNUNySHEyUqUrB2t TIMES AN!HAL!KASKAL!LISH!
UDrL2pIq AqBqDIMt OVER IDIM BUR*SQUAREDqGrIs DIBtRItOVER IGI SHIR OVER SHIR UD OVER UDtGUNUqLr T
IMES GAN2 TENUr2qMr TIMES TAK4sCROSSING IMsOPPOSING IMsSQUAREDrINqNqRqSHpKAr TIMES AzD! PLUS KU3
zSH2yBAD!LAG!RzIyERIN2zSH2yGA!L!N2 TENU!R$ PLUS SHA3 PLUS AzI!R2!SH PLUS SAR&CROSSING GISHzU!R7y
IGIzMyKAKzI!DyLIzUyME! PLUS DU,GI,TEzI! PLUS NUNUZyNEzUNyPIyRUySA!RzHA!E!ID!UzIGzUHURyTARyUz2zDz
MUM TIMES PAzSHyZIr2s CROSSING KA2rBrD2s3s4s5t OVER KAD5rKs TIMES IGI GUNUrLs TIMES BADtCROSSING
 KALrM2s4rSKALv LAGAB TIMES U OVER LAGAB TIMES UwOVER KASKAL LAGAB TIMES U OVER LAGAB TIMES UqES
H2qIr TIMES BADyUzDrDrNrSALsHsIM5v OVER KISIM5qUr OVER HI TIMES ASH2 KU OVER HI TIMES ASH2r3r4s 
VARIANT FORMr7rLs GUNUrNrRs OPPOSING KURrSHU2qWU318pLArGABu TIMES A% PLUS DA PLUS HA;GAR;LAL%L%N
%SH ZIDA TENU$BAD%I$DAR$EN$GA&R%UD* PLUS GUD$HA&L%I TIMES NUN$IGI GUNU%M& PLUS HA<LU$KI&N%U3&L* 
PLUS HI PLUS A$LAGAB%ISH%U&L$ME& PLUS EN%USH$NE$SHE PLUS SUM&ITA PLUS GISH PLUS ERIN2_H TENU&U2+
 PLUS SHU2%UM$TAG&K4%E PLUS A PLUS SU PLUS NA$U% PLUS A;U PLUS U%2 PLUS ASH%D%SHvSQUAREDtRu TIME
S SHE* PLUS SUMvGUNUz OVER LAGAR GUNU SHErHSHUrLs TIMES LALrMs TIMES KUR% PLUS RUqIrLrMMU2rSHqUr
 TIMES BADr2s TIMES ALzBADzESH2& TENUzGAN2 TENUzHI TIMES BADzIMzKAD2%3& PLUS ASH!IzLA PLUS ASH$G
ABzME PLUS ENzNE!UzSI PLUS ASH$K2 PLUS BUzTUG2uENUtCROSSING LU2tOPPOSING LU2tSQUAREDuHESHIGr3rGA
Lu OVER LUGALwPPOSING LUGALvSHESHIGrHrLrMs OVER LUM$ GAR OVER GARpMAr TIMES TAK4sGUNUr2rHrRrSHt2
qErSqIrNqUr OVER MUrGs GUNUrNSUBrRGU2rSHt TIMES A!KUR!ZAuOVER MUSH& TIMES A PLUS NAuCROSSING MUS
Ht3u TIMES A% PLUS DI$DIvGUNUpNAr2rGAt INVERTEDuTIMES SHU TENUuOPPOSING NAGAtRrM NUTILLUss2qEr T
IMES AyUDsSHESHIGqIr TIMES Er2rMs TIMES GAN2 TENU$R PLUS GAN2 TENUrNDA2v TIMES AN&SH+ PLUS ASH%G
UD%ME PLUS GAN2 TENU%NE&UN%SHE+ PLUS A AN?SH^ PLUS ASH%U2 PLUS ASH&SHrSAGqUr11rNs LAGAR TIMES GA
R+MASH+SAL; OVER NUN LAGAR TIMES SAL+USHtTENUtOVER NUNtCROSSING NUN+ LAGAR OVER LAGARsUZu AB2 TI
MES ASHGAB+BI+DUG+GUD+IGI GUNU+KAD3+LA+NE+SILA3+U2vKISIM5 TIMES BI= UpPArDrNrPqESH2qIr TIMES AzB
yBIzUyEyIzByUz2sCROSSING PIrRIGu TIMES KAL$UD$ZAvOPPOSING PIRIGpRArBqIqUpSArG NUTILLUss TIMES Az
DU$BzHAzKAK!URzLUMzMIzNUNzSAL!HIDzTABzU2!B!M!R!SHtOVER SAGtGUNUrLs LAGAB TIMES ASH2rNGA2rRqHAs3t
 TIMES A!BAD!GISH!NE!SHU2!TUR!U$ PLUS As6sB6sR2rEs HUtOVER SHE GAD OVER GAD GAR OVER GAR%TAB OVE
R TAB GAR OVER GARsG9sNsSHu2uLAMrIDt TIMES A!IMsMt TIMES A!BAL$ULUG!DIN!GAR!IGI& GUNU!KUSHU2!LUL
!MUG!SALsNIGsRt TENUuOVER SHIR BUR OVER BURsTArUs OVER INVERTED SHUs2sBURqIr GUNUrGs4t OVER SIG4
 SHU2rK2rLA3qUr OVER SUrDs2rHURrMsASHrRs9pTAr ASTERISKsTIMES HIyMIsGUNUrBs OVER TAB NI OVER NI D
ISH OVER DISHtSQUAREDrGs TIMES BIzGUDzSHE$UzTUG2zUDrK4rRqEr GUNUqIr TENUrLrRs TIMES TAK4tOVER TI
R$ GAD OVER GAD GAR OVER GARqUrG2rKrMrRs OVER TUR ZA OVER ZApUq GUDrU UrOVER U PA OVER PA GAR OV
ER GARySUR OVER SURyU REVERSED OVER U REVERSEDq2qBqDr KUSHU2sTIMES BADyMIyU PLUS U PLUS U@ GUNUs
GUNUsSHESHIGz TIMES BADrUGqMr TIMES LAGAByME PLUS DAySHA3yUrBINrUMt TIMES KASKAL!PAqNr GUNUqRr C
ROSSING URsSHESHIGr2s TIMES A PLUS HA,NA!LzHAzNUNzU2$ PLUS ASH:BIr4rIs3rUs TIMES A!SHGABzBARzDUN
zGA$L$N2 TENU$R!UzHAzIGI!M!SHzKIzLUMzMINzPAzSHE!IG4zTUzU PLUS GUD!D!RUDAsDAu TIMES UqSHs TIMES A
zKU$RzTAK4sXs2sUMXqTUKIqZ3s TIMES KASKALrUpZAr TENUsSQUARED TIMES KURrGrMXqE2qIr OVER ZIr3rBs KA
BA TENUrGrZ2qUr5s TIMES ArBURrMpKAP ELAMITEpAB TIMES NUNr2 TIMES AqMAR TIMES KUGpDAG KISIM5 TIME
S U2 PLUS MASHs3qISH PLUS SHUqUB TIMES SHEpEZEN TIMES GUD!SHEpGA2 TIMES AN PLUS KAK PLUS A!SH2qE
22qIGpHUSHpKA TIMES ANSHEzSH3yGISHzUDyHI TIMES ASH2yLUMyPAySHULyTUyUR2pLAGAB TIMES GIqU2 SHESHIG
 TIMES BADtTIMES ESH2 PLUS LALzSHUpMESHqUSH3 TIMES ZApNA4qINs9sDA2 TIMES BAL%GIqU11 ROTATED NINE
TY DEGREESpPESH2 ASTERISKqIR2pSAG TIMES IGI GUNUpTI2pUM TIMES MEq U(12400)kNUMERIC SIGN TWO ASHy
HREE ASHxFOUR ASHyIVE ASHxSIX ASHyEVEN ASHxEIGHT ASHxNINE ASHxTHREE DISHxFOUR DISHyIVE DISHxSIX 
DISHyEVEN DISHxEIGHT DISHxNINE DISHxFOUR UyIVE UxSIX UyEVEN UxEIGHT UxNINE UxONE GESH2xTWO GESH2
yHREE GESH2xFOUR GESH2yIVE GESH2xSIX GESH2yEVEN GESH2xEIGHT GESH2xNINE GESH2xONE GESHUxTWO GESHU
yHREE GESHUxFOUR GESHUyIVE GESHUxTWO SHAR2yHREE SHAR2; VARIANT FORMxFOUR SHAR2yIVE SHAR2xSIX SHA
R2yEVEN SHAR2xEIGHT SHAR2xNINE SHAR2xONE SHARUxTWO SHARUyHREE SHARU; VARIANT FORMxFOUR SHARUyIVE
 SHARUxSHAR2 TIMES GAL PLUS DISH_US MINxONE BURUxTWO BURUyHREE BURU: VARIANT FORMxFOUR BURUyIVE 
BURUxTHREE VARIANT FORM ESH16_ ESH21xFOUR VARIANT FORM LIMMU_LIMMU4_LIMMU A_LIMMU BxSIX VARIANT 
FORM ASH9yEVEN VARIANT FORM IMIN3_ IMIN A_ IMIN BxEIGHT VARIANT FORM USSU_ USSU3xNINE VARIANT FO
RM ILIMMU_ILIMMU3_ILIMMU4_ILIMMU AxTWO ASH TENUyHREE ASH TENUxFOUR ASH TENUyIVE ASH TENUxSIX ASH
 TENUxONE BAN2xTWO BAN2yHREE BAN2xFOUR BAN2, VARIANT FORMyIVE BAN2, VARIANT FORMxNIGIDAMIN&ESHxO
NE ESHE3xTWO ESHE3xONE THIRD DISHxTWO THIRDS DISHxFIVE SIXTHS DISHxONE THIRD VARIANT FORM AxTWO 
THIRDS VARIANT FORM AxONE EIGHTH ASH$QUARTER ASHyLD ASSYRIAN ONE SIXTH^QUARTERyNE QUARTER GUR$HA
LF GURxELAMITE ONE THIRD+TWO THIRDS+FORTY,IFTYxFOUR U VARIANT FORMyIVE U VARIANT FORMxSIX U VARI
ANT FORMyEVEN U VARIANT FORMxEIGHT U VARIANT FORMxNINE U VARIANT FORM(12470)kPUNCTUATION SIGN OL
D ASSYRIAN WORD DIVIDER$VERTICAL COLON$DIAGONAL COLON=TRICOLON=QUADCOLON(12480)kSIGN AB TIMES NU
N TENUySHU2qD TIMES ESH2pBAD TIMES DISH TENUrHAR2 TIMES AB2%NI%ZAqU OVER BU TIMES NA2pDA TIMES T
AK4rG TIMES KURqIM TIMES IGIzU U Us2 TIMES UDqUG TIMES ANSHE!SH% AT LEFTzDIN!UNzERIN2zGA!I$R2 GU
NU$SHzHA!IzIGI GUNUzKASKAL!UR$SHU2+ PLUS KASKALzLAK-020$M% TIMES KUR!UH PLUS GISHzMASH!ES!IzNIzP
IzSHE!I GUNUpE2 TIMES KURyPAPqRIN2 XqSH2 CROSSING ESH2qZEN SHESHIG TIMES ASH;HI;IGI GUNU;LA=L;ME
=S;SUuTIMES SUpGA2 TIMES BAHAR2zDIM GUNU!UG TIMES IGI GUNU<KASKALzERENzGA$R PLUS DI;NEzHA PLUS A
zKUSHU2 PLUS KASKALzLAM% TIMES KUR!UHzMUSHzNE$ PLUS E2:GIzSHIMzZIZ2rBA ROTATED NINETY DEGREESqES
HTIN TIMES UqISH TIMES GISH CROSSING GISHqU2 TIMES IGI GUNUrD PLUS GISH TIMES TAK4pHA TENU GUNUq
I TIMES ASH OVER HI TIMES ASHpKA TIMES BUyKAyU U UzRpLAGAB TIMES ZU OVER ZUrK-003u21v5u30u50v1u6
2u79 OVER LAK-079 GUNUu80v1 OVER LAK-081u92t130u42t210v9u20v5v8u38u65v6t343v7v8u83v4u90t441v9w T
IMES GU&IGI&PAP PLUS LU3?PAP PLUS LU3&U2 PLUS BAu50v7u70u83u90v2v3v5t550t608u17w TIMES ASH&BAD&D
UN3 GUNU GUNU&KU3&LA&TAR*E&U2*D*RUDAu36u48w TIMES DUB&GA&IGI, GUNU&NI&PAP PLUS PAP PLUS LU3&SHES
H PLUS KI&UD*RUDAt724u49qU2 GUNU TIMES ASHtTIMES DISHzHALzPAP% PLUS PAP PLUS LU3zTAK4pMI PLUS ZA
7qUSH OVER MUSH TIMES GA=KAKpNINDA2 TIMES DIM GUNU%GISH&UL%HI%KESH2%LAK-050%MASH%PAP PLUS PAP%U&
 PLUS U&RUDApSAG GUNU TIMES HAtTIMES ENzSHE AT LEFTzTAK4qHA6 TENUrE OVER SHEtPLUS HUB2yNAM2ySARr
U2 PLUS DUG TIMES NIzE2 TIMES ANqI TIMES TAK4pTAK4 PLUS SAGqUM TIMES GAN2 TENUzTHREE DISHpUR2 IN
VERTEDtTIMES UDrU TIMES DARA3zLAK-668!U3pZA7qU OVER ZU PLUS SARr5 TIMES THREE DISH TENU(12F90)bY
PRO-MINOAN SIGN CM001w2w4w5w6w7w8w9v10w1w2xBw3w5w7w9v21w3w4w5w6w7w8w9v30w3w4w5w6w7w8w9v40w1w4w6w
7w9v50w1w2w3w4w5w6w8w9v60w1w2w3w4w6w7w8w9v70w1w2w3w4w5xBw6w8w9v80w1w2w3w4w5w6w7w8w9v90w1w2w4w5w6
w7w8w9u100w1w2w3w4w5w7w8w9v10w2w4u301w2(13000)aEGYPTIAN HIEROGLYPH A001x2x3x4x5yAx6yAyBx7x8x9w10
x1x2x3x4yAx5x6x7yAx8x9w20x1x2x3x4x5x6x7x8x9w30x1x2yAx3x4x5x6x7x8x9w40yAx1x2yAx3yAx4x5yAx6x7x8x9w
50x1x2x3x4x5x6x7x8x9w60x1x2x3x4x5x6x7x8x9w70uB001x2x3x4x5yAx6x7x8x9uC001x2yAyByCx3x4x5x6x7x8x9w1
0yAx1x2x3x4x5x6x7x8x9w20x1x2x3x4uD001x2x3x4x5x6x7x8yAx9w10x1x2x3x4x5x6x7x8x9w20x1x2x3x4x5x6x7yAx
8x9w30x1yAx2x3x4yAx5x6x7x8x9w40x1x2x3x4x5x6yAx7x8yAx9w50yAyByCyDyEyFyGyHyIx1x2yAx3x4yAx5x6x7x8x9
w60x1x2x3x4x5x6x7yAyByCyDyEyFyGyHuE001x2x3x4x5x6x7x8yAx9yAw10x1x2x3x4x5x6yAx7yAx8x9w20yAx1x2x3x4
x5x6x7x8yAx9w30x1x2x3x4yAx6x7x8uF001yAx2x3x4x5x6x7x8x9w10x1x2x3yAx4x5x6x7x8x9w20x1yAx2x3x4x5x6x7
x8x9w30x1yAx2x3x4x5x6x7yAx8yAx9w40x1x2x3x4x5yAx6yAx7yAx8x9w50x1yAyByCx2x3uG001x2x3x4x5x6yAx7yAyB
x8x9w10x1yAx2x3x4x5x6x7x8x9w20yAx1x2x3x4x5x6yAx7x8x9w30x1x2x3x4x5x6yAx7yAx8x9w40x1x2x3yAx4x5yAx6
x7x8x9w50x1x2x3x4uH001x2x3x4x5x6yAx7x8uI001x2x3x4x5yAx6x7x8x9yAw10yAx1yAx2x3x4x5uK001x2x3x4x5x6x
7x8uL001x2yAx3x4x5x6yAx7x8uM001yAyBx2x3yAx4x5x6x7x8x9w10yAx1x2yAyByCyDyEyFyGyHx3x4x5yAx6yAx7yAx8
x9w20x1x2yAx3x4yAx5x6x7x8yAx9w30x1yAx2x3yAyBx4x5x6x7x8x9w40yAx1x2x3x4uN001x2x3x4x5x6x7x8x9w10x1x
2x3x4x5x6x7x8yAyBx9w20x1x2x3x4x5yAx6x7x8x9w30x1x2x3yAx4yAx5yAx6x7yAx8x9w40x1x2vL001y2y3y4y5zAy6y
7y8y9x10y1y2y3y4y5y6y7zAy8y9x20vU001y2y3y4y5y6y7y8y9x10zAy1zAy2y3y4y5y6y7y8zAy9x20y1y2zAuO001yAx
2x3x4x5yAx6yAyByCyDyEyFx7x8x9w10yAyByCx1x2x3x4x5x6x7x8x9yAw20yAx1x2x3x4yAx5yAx6x7x8x9yAw30yAx1x2
x3yAx4x5x6yAyByCyDx7x8x9w40x1x2x3x4x5x6x7x8x9w50yAyBx1uP001yAx2x3yAx4x5x6x7x8x9w10x1uQ001x2x3x4x
5x6x7uR001x2yAx3yAyBx4x5x6x7x8x9w10yAx1x2x3x4x5x6yAx7x8x9w20x1x2x3x4x5x6x7x8x9uS001x2yAx3x4x5x6y
Ax7x8x9w10x1x2x3x4yAyBx5x6x7yAx8x9w20x1x2x3x4x5x6yAyBx7x8x9w30x1x2x3x4x5yAx6x7x8x9w40x1x2x3x4x5x
6uT001x2x3yAx4x5x6x7yAx8yAx9yAw10x1yAx2x3x4x5x6yAx7x8x9w20x1x2x3x4x5x6x7x8x9w30x1x2yAx3yAx4x5x6u
U001x2x3x4x5x6yAyBx7x8x9w10x1x2x3x4x5x6x7x8x9w20x1x2x3yAx4x5x6x7x8x9yAw30x1x2yAx3x4x5x6x7x8x9w40
x1x2uV001yAyByCyDyEyFyGyHyIx2yAx3x4x5x6x7yAyBx8x9w10x1yAyByCx2yAyBx3x4x5x6x7x8x9w20yAyByCyDyEyFy
GyHyIyJyKyLx1x2x3yAx4x5x6x7x8yAx9yAw30yAx1yAx2x3yAx4x5x6x7yAx8x9w40yAuW001x2x3yAx4x5x6x7x8x9yAw1
0yAx1x2x3x4yAx5x6x7yAx8yAx9w20x1x2x3x4yAx5uX001x2x3x4yAyBx5x6yAx7x8yAuY001yAx2x3x4x5x6x7x8uZ001x
2yAyByCyDx3yAyBx4yAx5yAx6x7x8x9w10x1x2x3x4x5yAyByCyDyEyFyGyHyIx6yAyByCyDyEyFyGyHuAA001y2y3y4y5y6
y7zAzBy8y9x10y1y2y3y4y5y6y7y8y9x20y1y2y3y4y5y6y7y8y9x30y1y2(13430)uVERTICAL JOINERuHORIZONTAL JO
INERuINSERT AT TOP START*BOTTOM START*TOP END*BOTTOM ENDuOVERLAY MIDDLEuBEGIN SEGMENTuEND SEGMEN
T(14400)aANATOLIAN HIEROGLYPH A001y2y3y4y5y6y7y8y9x10zAy1y2y3y4y5y6y7y8y9x20y1y2y3y4y5y6zAy7y8y9
x30y1y2y3y4y5y6y7y8y9zAx40y1zAy2y3y4y5zAy6zAzBy7y8y9x50y1y2y3y4y5y6y7y8y9x60y1y2y3y4y5y6zAzBzCy7
y8y9x70y1y2y3y4y5y6y7y8y9x80y1y2y3y4y5y6y7y8y9x90y1y2y3y4y5y6y7zAy8zAy9w100zAy1zAy2zAy3y4zAzBzCy
5zAzBy6y7zAzBzCy8y9x10zAzBy1y2y3y4y5zAy6y7y8y9x20y1y2y3y4y5zAy6y7y8y9x30y1y2y3y4y5zAy6y7y8y9x40y
1y2y3y4y5y6y7y8y9x50y1y2y3y4y5y6y7y8y9x60y1y2y3y4y5y6y7y8y9x70y1y2y3y4y5y6y7y8y9x80y1y2y3y4y5y6y
7y8y9x90y1y2y3y4y5y6y7y8y9w200y1y2zAzBy3y4y5y6y7zAy8y9zAx10y1y2y3y4y5zAy6zAy7y8y9x20y1y2y3y4y5y6
y7zAy8y9x30y1y2y3y4y5y6y7y8y9x40y1y2y3y4y5y6y7y8y9x50y1y2y3y4y5y6y7y8y9x60y1y2y3y4y5y6y7zAy8y9x7
0y1y2y3y4y5y6y7y8y9x80y1y2y3y4y5y6y7y8y9zAx90y1y2y3y4zAy5y6y7y8y9zAw300y1y2y3y4y5y6y7y8y9zAx10y1
y2y3y4y5y6y7y8y9x20y1y2y3y4y5y6y7y8y9zAx30y1y2AzBzCy3y4y5y6zAzBzCy7y8y9x40y1y2y3y4y5y6y7y8y9x50y
1y2y3y4y5y6y7y8y9zAx60y1y2y3y4zAy5y6y7y8zAy9x70y1zAy2y3y4y5y6y7y8y9x80y1zAy2y3 RA OR RIzAy4y5y6z
Ay7y8y9x90y1y2y3 EIGHTy4y5y6y7y8y9w400y1y2y3y4y5y6y7y8y9x10 BEGIN LOGOGRAM MARKzA END LOGOGRAM M
ARKy1y2y3y4y5y6y7y8y9x20y1y2y3y4y5y6y7y8y9x30y1y2y3y4y5y6y7y8y9x40y1y2y3y4y5y6y7y8y9x50zAy1y2y3y
4y5y6y7zAy8y9x60y1y2y3y4y5y6y7y8y9x70y1y2y3y4y5y6y7y8y9x80y1y2y3y4y5y6y7y8y9x90y1y2y3y4y5y6y7w50
1y2y3y4y5y6y7y8y9x10y1y2y3y4y5y6y7y8y9x20y1y2y3y4y5y6y7y8y9x30(16800)aBAMUM LETTER PHASE-A NGKUE
 MFONvGBIEE FONvPON MFON PIPAEMGBIEE=BAvNAA MFONvSHUENSHUETvTITA MFONvNZA MFONvSHINDA PA NJIvPON
 PA NJI PIPAEMGBIEE?BAvMAEMBGBIEEvTU MAEMBAvNGANGUvMAEMVEUXxNSUAEwVEUAENGAMvSEUNYAMvNTOQPENvKEUK
EUTNDAvNKINDIvSUUvNGKUENZEUMvLAPAQwET KUTvNTAP MFAAvMAEKEUPvPASHAEvGHEUAERAEvPAMSHAEvMON NGGEUAE
TvNZUN MEUTvU YUQ NAEvGHEUAEGHEUAEvNTAP NTAAvSISAvMGBASAwEUNJOMNDEUQwOOMPUQvKAFAvPA LEERAEWAvNDA
 LEERAEWAvPETvMAEMKPENvNIKAvPUPvTUAEPvLUAEPvSONJAMvTEUTEUWENvMAENYIvKETvNDAANGGEUAETvKUOQvMOOMEU
TvSHUMvLOMMAEvFIRIvROMvKPOQvSOQvMAP PIEETvSHIRAEvNTAPvSHOQ NSHUT YUMvNYIT MONGKEUAEQvPAARAEvNKAA
RAEvUNKNOWNvNGGENvMAESIvNJAMvMBANYIvNYETvTEUAENvSOTvPAAMvNSHIEEvMAEMvNYIvKAQvNSHAvVEEvLUvNENwAQv
MBAQtB NSHUETvTU MAEMGBIEEvSIEEwET TUvLOM NTEUMvMBA MAELEEvKIEEMvYEURAEvMBAARAEvKAMvPEESHIvYAFU 
LEERAEWAvLAM NSHUT NYAMvNTIEE SHEUOQwDU NJAAvGHEUGHEUAEMvPITvTU NSIEEvSHET NJAQyUAEQTUvMFON TEUA
EQwBIT MBAAKETvNYI NTEUMvKEUPUQvGHEUGHENvKEUYEUXvLAANAEvPARUMvVEUMvNGKINDI MVOPxGEU MBUvWUAETvSA
KEUAEvTAAMvMEUQvNGGUOQ$ LARGEvMFIYAQvSUEvMBEURIwONTIEENvNYAEMAEvPUNGAAMvMEUT NGGEETvFEUXvMBUOQvF
EEvKEUAEMvMA NJEUAENA!UQAvLETvNGGAAMwSENvMAvKIQvNGOMtC NGKUE MAEMBAwZAvYUMvWANGKUOQvNGGENwDEUAER
EEwGKAQvGHARAEvMBEEKEETvGBAYIvNYIR MKPARAQ MEUNwTU MBITvMBEUMvPIRIEENvNDOMBUvMBAA CABBAGE-TREEvK
EUSHEUAEPvGHAPvKEUKAQvYU MUOMAEvNZEUMvMBUEvNSEUAENvMBITvYEUQvKPARAQwAAvSEUXvNDIDAvTAASHAEvNJUEQv
TITA YUEvSUAETvNGGUAEN NYAMvVEUXvNANSANAQvMA KEUAERIvNTAAwGGUONvLAPvMBIRIEENwGBASAQvNTEUNGBAvTEU
TEUXvNGGUMvFUEvNDEUTwSAxHAQvBUNGvVEUAEPENvMBERAEvRUvNJAEMvLAMvTITUAEPvNSUOT NGOMwJEEEEvKETvNGGUv
MAESIwBUAEMvLUvKUTvNJAMwGOMvWUPvNGGUEETwSOMwTENvKUOP NKAARAEvNSUNwDAMvMA NSIEEvYAAvNDAPvSHUEQwET
FONvMBIwAEMBAwBANYIvKEUSEUXvMBEUXvKEUMvMBAA PICKETvYUWOQvNJEUXvMIEEwUAEvSHIQvKEN LAWzFATIGUEvNGA
QwAQvLIQvPINwENvTETtD MBUOvWAPvNJIvMFONvNJIEEvLIEEvNJEUTwSHEEwGGAAMAEwYAMvWUAENvNGKUNvSHEEvNGKAP
vKEUAETMEUNvTEUTvSHEUAEvNJAPvSUEvKETvYAEMMAEvKUOMvSAPvMFEUTvNDEUXvMALEERIwEUTvSEUAEQvYENvNJEUAEM
vKEUOT MBUAEvNGKEURIvTUvGHAAvNGKYEEvFEUFEUAETvNDEEvMGBOFUMvLEUAEPvNDONvMONIwGBEUNvPUUTvMGBIEEwFO
vLUMvNSIEEPvMBAAvKWAETvNYETvTEUAENvSOTvYUWOQvKEUMvRAEMvTEEEEvNGKEUAEQvMFEUAEvNSIEETvKEUPvPIPwEUT
AEvNYUEvLETvNGGAAMvMFIEEvNGGWAENvYUOMvPAPvYUOPvNDAMwTEUMvSUAEvKUNvNGGEUXxKIEEvTUOTvMEUNvKUQvNSUM
vTEUNvMAENJETvNGGAPvLEUMvNGGUOMwSHUTwJUEQvGHEUAEvKUvREN OLDvTAEwOQvNYIvRIIvLEEEEvMEEEEwvSUUvMUvS
HIIxEUXvKYEEvNUvSHUvNTEEvPEEvNIvSHOQvPUQvMVOPvLOQvREN MUCHvTIvNTUUvMBAA SEVENvSAQvFAAtE NDAPvTOO
NvMBEUMvLAPvVOMvLOONvPAAvSOMvRAQvNSHUOPwDUNvPUAEvTAMvNGKAvKPEUXvWUOvSEEvNGGEUAETvPAAMvTOOvKUOPvL
OMvNSHIEEwGOPvMAEMvNGKEUXxOQwSHUEvRIMGBAvNJEUXvPEEMvSAAvNGGURAEvMGBAvGHEUXvNGKEUAEMwJAEMLIvMAPvL
OOTvNGGEEEEwDIQvTAEN NTEUMvSETvPUMvNDAA SOFTNESSwGGUAESHAE NYAMvYIEEvGHEUNvTUAEvYEUAEvPOvTUMAEvK
EUAEvSUAENvTEUAEQvVEUAEvWEUXvLAAMvPUvTAAQvGHAAMAEvNGEUREUTvSHEUAEQvMGBENwBEEvNZAQwKOMvGBETvTUMvK
UETvYAPvNYI CLEAVERvYITvMFEUQvNDIAQvPIEEQvYUEQvLEUAEMvFUEvGBEUXvNGKUPvKETvMAEvNGKAAMIvGHETvFAvNT
UMvPEUTvYEUMvNGGEUAEwYI BETWEENwZUQvPOONvMIEEvFUETvNAEvMUAEvGHEUAEvFU IvMVIvPUAQvNGKUMvKUTvPIETv
NTAPvYEUAETvNGGUPvPA PEOPLEvFU CALLwOMvNJEEvAvTOQvOvIvLAQvPA PLURALvTAAxQvNDAA MY HOUSEvSHIQvYEU
XvNGUAEvYUAENwOQ SWIMMINGzCOVERwUQxNvKEUXvPEUXvNJEE EPOCHvPUEvWUEvFEEvVEEvLUvMIvREUXwAEvNGUAETxA
vSHOyQvFU REMEDYvNAvPIvLOQvKOvMENwAxQvTEUvKIvMONvTENvFAQvGHOMtF KAvUvKUvEEvREEvTAEvNYIvLAvRIIxEE
vMEEEEvTAAvNDAAwJAEMvMvSUUwHIIwIwEUXvKYEEwETvNUAExwJUAEvYOQvSHUvYAvNSHAvPEUXvNTEEvWUEvPEEvRUvNIv
REUXvKENvNGKWAENxGAvSHOvPUAEvFOMvWAvLIwOQvKOvMBENvRENvMAwOwBAAvTETvKPAvSAMBAvVUEQ(16A40)aMRO LET
TER TAlNGIlYOlMIMlBAlDAlAlPHIlKHAIlHAOlDAIlCHUlKEAAElOLlMAEMlNINlPAlOOmlROlSHIlTHEAlEAlWAlElKOlL
ANnlHAIlRIlTEK(16A60)eDIGIT ZEROkONEkTWOlHREEkFOURlIVEkSIXlEVENkEIGHTkNINE(16A6E)fANDAfOUBLE DAN
DAaTANGSA LETTER OZpCpQpXoAZpCpQpXoVZpCpQpXoEZpCpQpXoIZpCpQpXoUZpCpQpXoAWZqCqQqXoUIZqCqQqXoFINAL
 NGoLONG UEXoSHORT UEZuAWXoUECqZqQqXpIUZrCrQrXoMZpCpQpXoKApHAoGAoNGAoSAoYAoWAoPAoNYAoPHAoBAoMAoN
AoHAoLAoHTAoTAoDAoRAoNHAoSHAoCAoTSAoGHAoHTTAoTHAoXAoFAoDHAoCHAoZA(16AC0)hDIGIT ZEROnONEnTWOoHREE
nFOURoIVEnSIXoEVENnEIGHTnNINE(16AD0)aBASSA VAH LETTER ENNIrKArSErFArMBErYIErGAHrDHIIrKPAHrJOrHWA
HrWArZOrGBUrDOrCErUWUrTOrBArVUrYEINrPArWADDArArOsOrUrEEsrI(16AF0)kCOMBINING HIGH TONEuLOW TONEuM
ID TONEuLOW-MID TONEuHIGH-LOW TONEkFULL STOP(16B00)aPAHAWH HMONG VOWEL KEEBwVuIBvVuAUBwVuUBvVuEB
vVuAIBwVuOOBwVuAWBwVuUABwVuOBvVuIABwVuABvVuWBvVuAABwVnCONSONANT VAUxNTSAUxLAUxHAUxNLAUxRAUxNKAUx
QHAUxYAUxHLAUxMAUxCHAUxNCHAUxHNAUxPLHAUxNTHAUyAUxAUxXAUxCAUnMARK CIM TUBwSOwKESxHAVwSUAMwHOMwTAU
MnSIGN VOS THOMxSHAB CEEBsCIM CHEEMsVOS THIABwFEEMsXYEEM NTXIVyRHOyTOVyFAIBsVOS SEEVsMEEJ SUABsV
OS NRUAsIB YAMsXAUSsCIM TSOV ROG(16B50)nDIGIT ZEROtONEtTWOuHREEtFOURuIVEtSIXuEVENtEIGHTtNINE(16B
5B)nNUMBER TENSuHUNDREDSuTEN THOUSANDSuMILLIONSuHUNDRED MILLIONSuTEN BILLIONSvRILLIONS(16B63)nSI
GN VOS LUBsXYOOsHLIsTHIRD-STAGE HLIsZWJ THAJsHNUBsNQIGsXIABsNTUJsAVsTXHEEJ CEEVsMEEJ TSEEBsTAUsL
OSsMUSsCIM HAIS LUS NTOG NTOGwCUAM TSHOOJwTXWV! CHWVwPUB DAWBwNRES TOS(16B7D)nCLAN SIGN TSHEEJxY
EEGxLISyAUJxXYOOJxKOOxHAWJxMUASxTHOJySABxPHABxKHABxHAMxVAJxFAJxYAJxTSWBxKWMxVWJ(16E40)aMEDEFAIDR
IN CAPITAL LETTER M$S$V$W$ATIU$Z$KP$P$T$G$F$I$K$A$J$E$B$C$U$YU$L$Q$HP$NY$X$D$OE$N$R$O$AI$YmSMALL
 LETTER MzSzVzWzATIUzZzKPzPzTzGzFzIzKzAzJzEzBzCzUzYUzLzQzHPzNYzXzDzOEzNzRzOzAIzYmDIGIT ZEROsONEs
TWOtHREEsFOURtIVEsSIXtEVENsEIGHTsNINEmNUMBER TENtELEVENtTWELVEuHIRTEENtFOURTEENuIFTEENtSIXTEENuE
VENTEENtEIGHTEENtNINETEENmDIGIT ONE ALTERNATE FORMsTWO ALTERNATE FORMtHREE ALTERNATE FORMmCOMMAm
FULL STOPmSYMBOL AIVAmEXCLAMATION OH(16F00)bIAO LETTER PAmBAmYI PAmPLAmMAnHAmARCHAIC MAmFAmVAnFA
mTAmDAmYI TTAqAmTTAmDDAmNAnHAmYI NNAmARCHAIC NAmNNAoHAmLAnYAnHAoYAmTLHAmDLHAmTLHYAmDLHYAmKAmGAmY
I KAmQAnGAmNGAoHAmARCHAIC NGAmHAmXAmGHAoHAmTSSAmDZZAmNYAoHAmTSHAmDZHAmYI TSHApDZHAmREFORMED TSHA
mSHAnSAmZHAnSHAmTSAmDZAmYI TSAmSAmZAnSAnZAoSAmARCHAIC ZZAmZZYAoSYAmWAmAHmHHAmBRImSYImDZYImTEnSEm
RTE(16F4F)fSIGN CONSONANT MODIFIER BARfLETTER NASALIZATIONfSIGN ASPIRATIONkREFORMED VOICINGtASPI
RATIONfVOWEL SIGN ArArHHrNsGqOrOqWOrqErNsGqOEYqIrAsNtGrOrErIrUrNGqUrAsNtGrUrEIrNGqYrIqAEsEqERRqR
OUNDED ERRqERqROUNDED ERqAIqEIqAUqOUqNrGqUOGqYUIqOGrERqVWqIGqEAqIONGqUI(16F8F)fTONE RIGHTkTOP RI
GHTkABOVEkBELOWfLETTER TONE-2r3r4r5r6r7r8mREFORMED TONE-1!2!4!5!6!8(16FE0)aTANGUT ITERATION MARK
aNUSHU ITERATION MARKaOLD CHINESE HOOK MARKmITERATION MARKaKHITAN SMALL SCRIPT FILLER(16FF0)aVIE
TNAMESE ALTERNATE READING MARK CA;NHAY(18800)aTANGUT COMPONENT-001t2t3t4t5t6t7t8t9s10t1t2t3t4t5t
6t7t8t9s20t1t2t3t4t5t6t7t8t9s30t1t2t3t4t5t6t7t8t9s40t1t2t3t4t5t6t7t8t9s50t1t2t3t4t5t6t7t8t9s60t1
t2t3t4t5t6t7t8t9s70t1t2t3t4t5t6t7t8t9s80t1t2t3t4t5t6t7t8t9s90t1t2t3t4t5t6t7t8t9r100t1t2t3t4t5t6t
7t8t9s10t1t2t3t4t5t6t7t8t9s20t1t2t3t4t5t6t7t8t9s30t1t2t3t4t5t6t7t8t9s40t1t2t3t4t5t6t7t8t9s50t1t2
t3t4t5t6t7t8t9s60t1t2t3t4t5t6t7t8t9s70t1t2t3t4t5t6t7t8t9s80t1t2t3t4t5t6t7t8t9s90t1t2t3t4t5t6t7t8
t9r200t1t2t3t4t5t6t7t8t9s10t1t2t3t4t5t6t7t8t9s20t1t2t3t4t5t6t7t8t9s30t1t2t3t4t5t6t7t8t9s40t1t2t3
t4t5t6t7t8t9s50t1t2t3t4t5t6t7t8t9s60t1t2t3t4t5t6t7t8t9s70t1t2t3t4t5t6t7t8t9s80t1t2t3t4t5t6t7t8t9
s90t1t2t3t4t5t6t7t8t9r300t1t2t3t4t5t6t7t8t9s10t1t2t3t4t5t6t7t8t9s20t1t2t3t4t5t6t7t8t9s30t1t2t3t4
t5t6t7t8t9s40t1t2t3t4t5t6t7t8t9s50t1t2t3t4t5t6t7t8t9s60t1t2t3t4t5t6t7t8t9s70t1t2t3t4t5t6t7t8t9s8
0t1t2t3t4t5t6t7t8t9s90t1t2t3t4t5t6t7t8t9r400t1t2t3t4t5t6t7t8t9s10t1t2t3t4t5t6t7t8t9s20t1t2t3t4t5
t6t7t8t9s30t1t2t3t4t5t6t7t8t9s40t1t2t3t4t5t6t7t8t9s50t1t2t3t4t5t6t7t8t9s60t1t2t3t4t5t6t7t8t9s70t
1t2t3t4t5t6t7t8t9s80t1t2t3t4t5t6t7t8t9s90t1t2t3t4t5t6t7t8t9r500t1t2t3t4t5t6t7t8t9s10t1t2t3t4t5t6
t7t8t9s20t1t2t3t4t5t6t7t8t9s30t1t2t3t4t5t6t7t8t9s40t1t2t3t4t5t6t7t8t9s50t1t2t3t4t5t6t7t8t9s60t1t
2t3t4t5t6t7t8t9s70t1t2t3t4t5t6t7t8t9s80t1t2t3t4t5t6t7t8t9s90t1t2t3t4t5t6t7t8t9r600t1t2t3t4t5t6t7
t8t9s10t1t2t3t4t5t6t7t8t9s20t1t2t3t4t5t6t7t8t9s30t1t2t3t4t5t6t7t8t9s40t1t2t3t4t5t6t7t8t9s50t1t2t
3t4t5t6t7t8t9s60t1t2t3t4t5t6t7t8t9s70t1t2t3t4t5t6t7t8t9s80t1t2t3t4t5t6t7t8t9s90t1t2t3t4t5t6t7t8t
9r700t1t2t3t4t5t6t7t8t9s10t1t2t3t4t5t6t7t8t9s20t1t2t3t4t5t6t7t8t9s30t1t2t3t4t5t6t7t8t9s40t1t2t3t
4t5t6t7t8t9s50t1t2t3t4t5t6t7t8t9s60t1t2t3t4t5t6t7t8aKHITAN SMALL SCRIPT CHARACTER-18B00;1;2;3;4;
5;6;7;8;9;A;B;C;D;E;F:10;1;2;3;4;5;6;7;8;9;A;B;C;D;E;F:20;1;2;3;4;5;6;7;8;9;A;B;C;D;E;F:30;1;2;3
;4;5;6;7;8;9;A;B;C;D;E;F:40;1;2;3;4;5;6;7;8;9;A;B;C;D;E;F:50;1;2;3;4;5;6;7;8;9;A;B;C;D;E;F:60;1;
2;3;4;5;6;7;8;9;A;B;C;D;E;F:70;1;2;3;4;5;6;7;8;9;A;B;C;D;E;F:80;1;2;3;4;5;6;7;8;9;A;B;C;D;E;F:90
;1;2;3;4;5;6;7;8;9;A;B;C;D;E;F:A0;1;2;3;4;5;6;7;8;9;A;B;C;D;E;F:B0;1;2;3;4;5;6;7;8;9;A;B;C;D;E;F
:C0;1;2;3;4;5;6;7;8;9;A;B;C;D;E;F:D0;1;2;3;4;5;6;7;8;9;A;B;C;D;E;F:E0;1;2;3;4;5;6;7;8;9;A;B;C;D;
E;F:F0;1;2;3;4;5;6;7;8;9;A;B;C;D;E;F,C00;1;2;3;4;5;6;7;8;9;A;B;C;D;E;F:10;1;2;3;4;5;6;7;8;9;A;B;
C;D;E;F:20;1;2;3;4;5;6;7;8;9;A;B;C;D;E;F:30;1;2;3;4;5;6;7;8;9;A;B;C;D;E;F:40;1;2;3;4;5;6;7;8;9;A
;B;C;D;E;F:50;1;2;3;4;5;6;7;8;9;A;B;C;D;E;F:60;1;2;3;4;5;6;7;8;9;A;B;C;D;E;F:70;1;2;3;4;5;6;7;8;
9;A;B;C;D;E;F:80;1;2;3;4;5;6;7;8;9;A;B;C;D;E;F:90;1;2;3;4;5;6;7;8;9;A;B;C;D;E;F:A0;1;2;3;4;5;6;7
;8;9;A;B;C;D;E;F:B0;1;2;3;4;5;6;7;8;9;A;B;C;D;E;F:C0;1;2;3;4;5;6;7;8;9;A;B;C;D;E;F:D0;1;2;3;4;5(
1AFF0)bATAKANA LETTER MINNAN TONE-2%3%4%5(1AFF5)%7%8xNASALIZED TONE-1?2?3?4?5(1AFFD)?7?8(1B000)q
ARCHAIC EaHIRAGANA LETTER ARCHAIC YEbENTAIGANA LETTER A-1u2u3uWOsI-1u2u3u4sU-1u2u3u4u5sE-2u3u4u5
u6sO-1u2u3sKA-1v2v3v4v5v6v7v8v9v10w1vKEtI-1v2v3v4v5v6v7v8tU-1v2v3v4v5v6v7tE-1v2v3v4v5v6tO-1v2v3v
KIsSA-1v2v3v4v5v6v7v8tI-1v2v3v4v5v6tU-1v2v3v4v5v6v7v8tE-1v2v3v4v5tO-1v2v3v4v5v6v7sTA-1v2v3v4tI-1
v2v3v4v5v6v7tU-1v2v3v4vTOtE-1v2v3v4v5v6v7v8v9tO-1v2v3v4v5v6vRAsNA-1v2v3v4v5v6v7v8v9tI-1v2v3v4v5v
6v7vTEtU-1v2v3tE-1v2v3v4v5v6vKOtO-1v2v3v4v5sHA-1v2v3v4v5v6v7v8v9v10w1tI-1v2v3v4v5v6v7tU-1v2v3tE-
1v2v3v4v5v6v7tO-1v2v3v4v5v6v7v8sMA-1v2v3v4v5v6v7tI-1v2v3v4v5v6v7tU-1v2v3v4tE-1v2vMAtO-1v2v3v4v5v
6sYA-1v2v3v4v5vYOtU-1v2v3v4tO-1v2v3v4v5v6sRA-1v2v3v4tI-1v2v3v4v5v6v7tU-1v2v3v4v5v6tE-1v2v3v4tO-1
v2v3v4v5v6sWA-1v2v3v4v5tI-1v2v3v4v5tE-1v2v3v4tO-1v2v3v4v5v6v7sN-MU-MO-1!2bIRAGANA LETTER ARCHAIC
 WUaKATAKANA LETTER ARCHAIC YIzEyWU(1B150)aHIRAGANA LETTER SMALL WIxExO(1B164)aKATAKANA LETTER S
MALL WIxExOwN(1B170)aNUSHU CHARACTER-1B170u1u2u3u4u5u6u7u8u9uAuBuCuDuEuFt80u1u2u3u4u5u6u7u8u9uAu
BuCuDuEuFt90u1u2u3u4u5u6u7u8u9uAuBuCuDuEuFtA0u1u2u3u4u5u6u7u8u9uAuBuCuDuEuFtB0u1u2u3u4u5u6u7u8u9
uAuBuCuDuEuFtC0u1u2u3u4u5u6u7u8u9uAuBuCuDuEuFtD0u1u2u3u4u5u6u7u8u9uAuBuCuDuEuFtE0u1u2u3u4u5u6u7u
8u9uAuBuCuDuEuFtF0u1u2u3u4u5u6u7u8u9uAuBuCuDuEuFs200u1u2u3u4u5u6u7u8u9uAuBuCuDuEuFt10u1u2u3u4u5u
6u7u8u9uAuBuCuDuEuFt20u1u2u3u4u5u6u7u8u9uAuBuCuDuEuFt30u1u2u3u4u5u6u7u8u9uAuBuCuDuEuFt40u1u2u3u4
u5u6u7u8u9uAuBuCuDuEuFt50u1u2u3u4u5u6u7u8u9uAuBuCuDuEuFt60u1u2u3u4u5u6u7u8u9uAuBuCuDuEuFt70u1u2u
3u4u5u6u7u8u9uAuBuCuDuEuFt80u1u2u3u4u5u6u7u8u9uAuBuCuDuEuFt90u1u2u3u4u5u6u7u8u9uAuBuCuDuEuFtA0u1
u2u3u4u5u6u7u8u9uAuBuCuDuEuFtB0u1u2u3u4u5u6u7u8u9uAuBuCuDuEuFtC0u1u2u3u4u5u6u7u8u9uAuBuCuDuEuFtD
0u1u2u3u4u5u6u7u8u9uAuBuCuDuEuFtE0u1u2u3u4u5u6u7u8u9uAuBuCuDuEuFtF0u1u2u3u4u5u6u7u8u9uAuB(1BC00)
aDUPLOYAN LETTER HqXqPqTqFqKqLqBqDqVqGqRqP NqD SqF NqK MqR SqTHqSLOAN DHqDHqKKqSLOAN JqHLqLHqRHq
MqNqJqSqM NqN MqJ MqS JqM WITH DOTqN WITH DOTqJ WITH DOT!S INSIDE AND ABOVEqS WITH DOT! BELOWqM 
SqN SqJ SqS SqM N SqN M SqJ M SqS J SqJ S WITH DOTsNt SqS Tt RsPt RqT SsR SqWrHr RqS NsMqK R SqG
 R SqS Kt RqAqSLOAN OWqOArqAOUqIqEqIEqSHORT IqUIqEEqSLOAN EHqROMANIAN IqSLOAN EEqLONG IqYEqUqEUq
XWqU NqLONG UqROMANIAN UqUHqSLOAN UqOOHrWrUqWArOrIrEIrOWqNASAL UwOwIwAqPERNIN ANyMqSLOAN ENwANwO
NqVOCALIC M(1BC70)jAFFIX LEFT HORIZONTAL SECANTpMID HORIZONTAL SECANTpRIGHT HORIZONTAL SECANTpLO
W VERTICAL SECANTpMID VERTICAL SECANTpHIGH VERTICAL SECANTpATTACHED SECANTyLEFT-TO-RIGHT SECANTy
TANGENT!ILyE HOOKyI HOOKyTANGENT HOOK(1BC80)pHIGH ACUTEuTIGHT ACUTEuGRAVEuLONG GRAVEuDOTuCIRCLEu
LINEuWAVEuVERTICAL(1BC90)pLOW ACUTEtTIGHT ACUTEtGRAVEtLONG GRAVEtDOTtCIRCLEtLINEtWAVEtVERTICALtA
RROW(1BC9C)jSIGN O WITH CROSSjTHICK LETTER SELECTORjDOUBLE MARKjPUNCTUATION CHINOOK FULL STOPaSH
ORTHAND FORMAT LETTER OVERLAPrCONTINUING OVERLAPrDOWN STEPrUP STEP(1CF00)aZNAMENNY COMBINING MAR
K GORAZDO NIZKO S KRYZHEM ON LEFTyNIZKO S KRYZHEM ON LEFTyTSATA ON LEFTyGORAZDO NIZKO ON LEFTyNI
ZKO ON LEFTySREDNE ON LEFTyMALO POVYSHE ON LEFTyPOVYSHE ON LEFTyVYSOKO ON LEFTyMALO POVYSHE S KH
OKHLOM ON LEFTyPOVYSHE S KHOKHLOM ON LEFTyVYSOKO S KHOKHLOM ON LEFTyGORAZDO NIZKO S KRYZHEM ON R
IGHTyNIZKO S KRYZHEM ON RIGHTyTSATA ON RIGHTyGORAZDO NIZKO ON RIGHTyNIZKO ON RIGHTySREDNE ON RIG
HTyMALO POVYSHE ON RIGHTyPOVYSHE ON RIGHTyVYSOKO ON RIGHTyMALO POVYSHE S KHOKHLOM ON RIGHTyPOVYS
HE S KHOKHLOM ON RIGHTyVYSOKO S KHOKHLOM ON RIGHTyTSATA S KRYZHEMyMALO POVYSHE S KRYZHEMySTRANNO
 MALO POVYSHEyPOVYSHE S KRYZHEM:TRANNOyVYSOKO S KRYZHEMyMALO POVYSHE STRANNOyGORAZDO VYSOKOyZELO
yONyRAVNOyTIKHAYAyBORZAYAyUDARKAyPODVERTKAyLOMKAyKUPNAYAzACHKAyZEVOKySKOBAyRAZSEKAyKRYZH ON LEFT
(1CF30)tTONAL RANGE MARK MRACHNO=SVETLO=TRESVETLOtMARK ZADERZHKAyDEMESTVENNY ZADERZHKAyOTSECHKAy
PODCHASHIE; WITH VERTICAL STROKEyCHASHKA+ POLNAYAyOBLACHKOySOROCHYA NOZHKAyTOCHKAyDVOETOCHIEtATT
ACHING VERTICAL OMETtMARK CURVED OMETyKRYZHtLOWER TONAL RANGE INDICATORjPRIZNAK MODIFIER LEVEL-2
,3!DIRECTION FLIP!KRYZH!ROG(1CF50)jNEUME KRYUKu TIKHYpPARAKLITpDVA V CHELNUpKLYUCHpZANOZHEKpSTOP
ITSAx S OCHKOMpPEREVODKAy NEPOSTOYANNAYApSTOPITSA WITH SOROCHYA NOZHKApCHELYUSTKApPALKApZAPYATAY
ApGOLUBCHIK BORZYzTIKHYzMRACHNYzSVETLYzTRESVETLYpVRAKHIYA PROSTAYAyMRACHNAYAySVETLAYAyTRESVETLAY
AyKLYUCHEVAYA PROSTAYA=MRACHNAYA=SVETLAYA=TRESVETLAYApDOUBLE ZAPYATAYApREVERSED CHELYUSTKApDERBI
TSApKHAMILOpCHASHKApPODCHASHIEpSKAMEYTSA MRACHNAYAzSVETLAYAzTRESVETLAYA!IKHAYApDEMESTVENNY KLYUC
HpSKAMEYTSA KLYUCHEVAYA SVETLAYA,NEPOSTOYANNAYA,VAYA TIKHAYAzDVOECHELNAYA PROSTAYA?SVETLAYA?NEPO
STOYANNAYA?KLYUCHEVAYAqLOZHITIEy S ZAPYATOYzZAKRYTOEzS KRYZHEMpKRYZHpROGpFITApKOBYLApZMEYTSApSTA
TYAv S ZAPYATOYyKRYZHEMyZAPYATOY I KRYZHEMyKRYZHEM I ZAPYATOYwZAKRYTAYA+ S ZAPYATOYwS ROGOMyDVUM
YA ZAPYATYMIyZAPYATOY I PODCHASHIEMpPOLKULIZMYpSTATYA NEPOSTOYANNAYArRELA PROSTAYAwMRACHNOTIKHAY
AwKRYZHEVAYAwPOLUPOVODNAYAyVODNAYAwNEPOSTOYANNAYAwKLYUCHEPOVODNAYA&NEPOSTOYANNAYAwTIKHAYA PUTNAY
AwDVOECHELNAYA+OKRYZHEVAYA,POVODNAYA+AYA KLYUCHEVAYA+OPOVODNAYA KLYUCHEVAYAwGROMNAYA WITH SINGLE
 ZAPYATAYA!OPOVODNAYA WITH SINGLE ZAPYATAYA!NAYA!OPOVODNAYA= WITH DOUBLE ZAPYATAYA$KRYZHEVAYA> P
OVODNAYApMECHIKv POVODNYwKLYUCHEVOY&POVODNY&NEPOSTOYANNYpSTRELA TRYASOGLASNAYA%POVODNAYA%STRELNA
YApOSOKAu SVETLAYAvTRESVETLAYAvKRYUKOVAYA SVETLAYAwLYUCHEVAYA SVETLAYA:NEPOSTOYANNAYApSTRELA KRY
UKOVAYA, POVODNAYA:GROMNAYA WITH SINGLE ZAPYATAYA>OPOVODNAYA WITH SINGLE ZAPYATAYA>NAYA>OPOVODNA
YA_ODNAYA WITH DOUBLE ZAPYATAYA?KRYZHEVAYA_ZHEVAYA POVODNAYA:TRYASKApKUFISMApOBLAKOpDUDApNEMKApP
AUK(1D000)aBYZANTINE MUSICAL SYMBOL PSILIzDASEIAzPERISPOMENIzOXEIA EKFONITIKON+DIPLIzVAREIA EKFO
NITIKON,DIPLIzKATHISTIzSYRMATIKIzPARAKLITIKIzYPOKRISIS; DIPLIzKREMASTIzAPESO EKFONITIKONzEXO EKF
ONITIKONzTELEIAzKENTIMATAzAPOSTROFOS< DIPLIzSYNEVMAzTHITAzOLIGON ARCHAIONzGORGON ARCHAIONzPSILON
zCHAMILONzVATHYzISON ARCHAIONzKENTIMA ARCHAION,TA ARCHAIONzSAXIMATAzPARICHONzSTAVROS APODEXIAzOX
EIAI ARCHAIONzVAREIAI ARCHAIONzAPODERMA ARCHAION%THEMAzKLASMAzREVMAzPIASMA ARCHAIONzTINAGMAzANAT
RICHISMAzSEISMA!YNAGMA ARCHAION:META STAVROUzOYRANISMA ARCHAIONzTHEMAzLEMOIzDYOzTRIA!ESSERAzKRAT
IMATAzAPESO EXO NEOzFTHORA ARCHAIONzIMIFTHORAzTROMIKON ARCHAIONzKATAVA TROMIKONzPELASTON!SIFISTO
NzKONTEVMAzCHOREVMA ARCHAIONzRAPISMAzPARAKALESMA ARCHAION*LITIKI ARCHAIONzICHADINzNANAzPETASMAzK
ONTEVMA ALLOzTROMIKON ALLOzSTRAGGISMATAzGRONTHISMATAzISON NEOzOLIGON NEO!XEIA NEOzPETASTIzKOUFIS
MAzPETASTOKOUFISMAzKRATIMOKOUFISMAzPELASTON NEOzKENTIMATA NEO ANO, NEO ANOzYPSILIzAPOSTROFOS NEO
;I SYNDESMOS NEOzYPORROIzKRATIMOYPORROONzELAFRONzCHAMILIzMIKRON ISONzVAREIA NEOzPIASMA NEO!SIFIS
TON NEOzOMALONzANTIKENOMAzLYGISMAzPARAKLITIKI NEO*ALESMA NEOzETERON PARAKALESMAzKYLISMAzANTIKENO
KYLISMAzTROMIKON NEOzEKSTREPTONzSYNAGMA NEO$RMAzCHOREVMA NEOzEPEGERMAzSEISMA NEOzXIRON KLASMAzTR
OMIKOPSIFISTONzPSIFISTOLYGISMAzTROMIKOLYGISMA,PARAKALESMAzPSIFISTOPARAKALESMAzTROMIKOSYNAGMAzPSI
FISTOSYNAGMAzGORGOSYNTHETONzARGOSYNTHETONzETERON ARGOSYNTHETONzOYRANISMA NEOzTHEMATISMOS ESO?XO*
 APLOUN%S KAI APOTHESzKATAVASMAzENDOFONONzYFEN KATO*ANOzSTAVROSzKLASMA ANOzDIPLI ARCHAIONzKRATIM
A ARCHAION;LLO:NEOzAPODERMA NEO$LIzDIPLIzTRIPLI!ETRAPLIzKORONISzLEIMMA ENOS CHRONOU,DYO CHRONON,
TRION CHRONON:ESSARON CHRONON,IMISEOS CHRONOUzGORGON NEO ANO,PARESTIGMENON ARISTERA_ENON DEXIAzD
IGORGON: PARESTIGMENON ARISTERA KATO_GMENON ARISTERA ANO_GMENON DEXIAzTRIGORGONzARGONzIMIDIARGON
zDIARGONzAGOGI POLI ARGI+ARGOTERI;I+METRIA:SI+GORGI<OTERI+POLI GORGIzMARTYRIA PROTOS ICHOS;ALLI 
PROTOS ICHOS;DEYTEROS ICHOS;ALLI DEYTEROS ICHOS;TRITOS ICHOS>FONIAS<ETARTOS ICHOS_S LEGETOS ICHO
S;LEGETOS ICHOS;PLAGIOS ICHOSzISAKIA TELOUS ICHIMATOSzAPOSTROFOI TELOUS ICHIMATOSzFANEROSIS TETR
AFONIAS<MONOFONIAS<DIFONIASzMARTYRIA VARYS ICHOS;PROTOVARYS ICHOS<LAGIOS TETARTOS ICHOSzGORTHMIK
ON N APLOUN?DIPLOUNzENARXIS KAI FTHORA VOUzIMIFONON&THORONzFTHORA ARCHAION DEYTEROU ICHOU,DIATON
IKI PA_ NANA,NAOS ICHOS,DIATONIKI DI,SKLIRON DIATONON DI,DIATONIKI KE_ ZO_ NI KATO_ NI ANO,MALAK
ON CHROMA DIFONIAS_HROMA MONOFONIAS!HTORA SKLIRON CHROMA VASIS!THORA SKLIRON CHROMA SYNAFI,NENAN
OzCHROA ZYGOS+KLITON+SPATHIzFTHORA I YFESIS TETARTIMORION,ENARMONIOS ANTIFONIAzYFESIS TRITIMORIO
NzDIESIS TRITIMORION:ETARTIMORION,APLI DYO DODEKATA,MONOGRAMMOS TESSERA DODEKATA,DIGRAMMOS EX DO
DEKATA,TRIGRAMMOS OKTO DODEKATAzYFESIS APLI DYO DODEKATA,MONOGRAMMOS TESSERA DODEKATA,DIGRAMMOS 
EX DODEKATA,TRIGRAMMOS OKTO DODEKATAzGENIKI DIESIS,YFESISzDIASTOLI APLI MIKRI^EGALI;DIPLI;THESEO
SzSIMANSIS THESEOS_ DISIMOU_ TRISIMOU_ TETRASIMOU;ARSEOS^ DISIMOU_TRISIMOU_TETRASIMOUzDIGRAMMA G
G$FTOGGOS OUzSTIGMAzARKTIKO PA:VOU:GA:DI:KE:ZO:NIzKENTIMATA NEO MESO, NEO MESO,TA NEO KATO, NEO 
KATO!LASMA KATOzGORGON NEO KATO(1D100)aMUSICAL SYMBOL SINGLE BARLINEpDOUBLE BARLINEpFINAL BARLIN
EpREVERSE FINAL BARLINEpDASHED BARLINEpSHORT BARLINEpLEFT REPEAT SIGNpRIGHT REPEAT SIGNqEPEAT DO
TSpDAL SEGNOr CAPOpSEGNOpCODApREPEATED FIGURE-1+2+3pFERMATAw BELOWpBREATH MARKpCAESURApBRACEtKET
pONE-LINE STAFFpTWO-LINE STAFFqHREE-LINE STAFFpFOUR-LINE STAFFqIVE-LINE STAFFpSIX-LINE STAFFtSTR
ING FRETBOARDpFOUR-STRING FRETBOARDpG CLEFv OTTAVA ALTA&BASSApC CLEFpF CLEFv OTTAVA ALTA&BASSApD
RUM CLEF-1z2(1D129)pMULTIPLE MEASURE RESTpDOUBLE SHARPwFLATpFLAT UPuDOWNpNATURAL UPxDOWNpSHARP U
PvDOWNpQUARTER TONE SHARP%FLATpCOMMON TIMEqUT TIMEpOTTAVA ALTAwBASSApQUINDICESIMA ALTA%BASSApMUL
TI RESTpWHOLE RESTpHALF RESTpQUARTER RESTpEIGHTH RESTpSIXTEENTH RESTpTHIRTY-SECOND RESTpSIXTY-FO
URTH RESTpONE HUNDRED TWENTY-EIGHTH RESTpX NOTEHEADpPLUS NOTEHEADpCIRCLE X NOTEHEADpSQUARE NOTEH
EAD WHITE+BLACKpTRIANGLE NOTEHEAD UP WHITE=BLACK:LEFT WHITE?BLACK:RIGHT WHITE@BLACK:DOWN WHITE?B
LACK:UP RIGHT WHITE_ BLACKpMOON NOTEHEAD WHITE&BLACKpTRIANGLE-ROUND NOTEHEAD DOWN WHITE_WN BLACK
pPARENTHESIS NOTEHEADpVOID NOTEHEADpNOTEHEAD BLACKqULL NOTEHEADpCLUSTER NOTEHEAD WHITE,BLACKpBRE
VEpWHOLE NOTEpHALF NOTEpQUARTER NOTEpEIGHTH NOTEpSIXTEENTH NOTEpTHIRTY-SECOND NOTEpSIXTY-FOURTH 
NOTEpONE HUNDRED TWENTY-EIGHTH NOTEpCOMBINING STEM!PRECHGESANG STEMzTREMOLO-1:2:3pFINGERED TREMO
LO-1,2,3pCOMBINING AUGMENTATION DOTzFLAG-1*2*3*4*5pBEGIN BEAMpEND BEAMpBEGIN TIEpEND TIEpBEGIN S
LURpEND SLURpBEGIN PHRASEpEND PHRASEpCOMBINING ACCENTzSTACCATOzTENUTOzSTACCATISSIMOzMARCATO,-STA
CCATOzACCENT-STACCATOzLOUREpARPEGGIATO UP!DOWNpCOMBINING DOITzRIPzFLIPzSMEARzBENDzDOUBLE TONGUEz
TRIPLE TONGUEpRINFORZANDOpSUBITOpZpPIANOpMEZZOpFORTEpCRESCENDOpDECRESCENDOpGRACE NOTE SLASH!NO S
LASHpTRqURNpINVERTED TURNpTURN SLASHuUPpORNAMENT STROKE-1+2+3+4+5+6+7+8+9+10,1pHAUPTSTIMMEpNEBEN
STIMMEpEND OF STIMMEpDEGREE SLASHpCOMBINING DOWN BOWzUP BOWzHARMONICzSNAP PIZZICATOpPEDAL MARKvU
P MARKpHALF PEDAL MARKpGLISSANDO UPzDOWNpWITH FINGERNAILSpDAMPt ALLpMAXIMApLONGApBREVISpSEMIBREV
IS WHITE!BLACKpMINIMAv BLACKpSEMIMINIMA WHITE!BLACKpFUSA WHITEuBLACKpLONGA PERFECTA RESTvIMPERFE
CTA RESTpBREVIS RESTpSEMIBREVIS RESTpMINIMA RESTpSEMIMINIMA RESTpTEMPUS PERFECTUM CUM PROLATIONE
 PERFECTA_TIONE IMPERFECTA_TIONE PERFECTA DIMINUTION-1wIMPERFECTUM CUM PROLATIONE PERFECTA_LATIO
NE IMPERFECTA_LATIONE IMPERFECTA DIMINUTION-1_LATIONE IMPERFECTA DIMINUTION-2_LATIONE IMPERFECTA
 DIMINUTION-3pCROIXpGREGORIAN C CLEFzF CLEFpSQUARE BpVIRGApPODATUSpCLIVISpSCANDICUSpCLIMACUSpTOR
CULUSpPORRECTUSy FLEXUSpSCANDICUS FLEXUSpTORCULUS RESUPINUSpPES SUBPUNCTISpKIEVAN C CLEFwEND OF 
PIECEwFINAL NOTEwRECITATIVE MARKwWHOLE NOTEwHALF NOTEwQUARTER NOTE STEM DOWN^UPwEIGHTH NOTE STEM
 DOWN@UPwFLAT SIGNpSORIpKORON(1D200)aGREEK VOCAL NOTATION SYMBOL-1%2%3%4%5%6%7%8%9%10&1&2&3&4&5&
6&7&8&9%20&1&2&3&4%50&1&2&3&4gINSTRUMENTAL NOTATION SYMBOL-1<2<4<5<7<8<11=2=3=4=7=8=9<23=4=5=6=7
=9<30=2=6=7=8=9<40=2=3=5=7=8=9<50=1=2=3=4aCOMBINING GREEK MUSICAL TRISEMEzETRASEMEyPENTASEMEaGRE
EK MUSICAL LEIMMA(1D2E0)aMAYAN NUMERAL ZEROoONEoTWOpHREEoFOURpIVEoSIXpEVENoEIGHToNINEoTENoELEVEN
oTWELVEpHIRTEENoFOURTEENpIFTEENoSIXTEENpEVENTEENoEIGHTEENoNINETEEN(1D300)bONOGRAM FOR EARTHaDIGR
AM FOR HEAVENLY EARTHmUMAN EARTHlEARTHLY HEAVENuUMANqaTETRAGRAM FOR CENTREoFULL CIRCLEoMIREDoBAR
RIERoKEEPING SMALLoCONTRARIETYoASCENToOPPOSITIONoBRANCHING OUToDEFECTIVENESS OR DISTORTIONpIVERG
ENCEoYOUTHFULNESSoINCREASEoPENETRATIONoREACHoCONTACToHOLDING BACKoWAITINGoFOLLOWINGoADVANCEoRELE
ASEqSISTANCEoEASEoJOYoCONTENTIONoENDEAVOURoDUTIESoCHANGEoDECISIVENESSoBOLD RESOLUTIONoPACKINGoLE
GIONoCLOSENESSoKINSHIPoGATHERINGoSTRENGTHoPURITYoFULLNESSoRESIDENCEoLAW OR MODELoRESPONSEoGOING 
TO MEEToENCOUNTERSoSTOVEoGREATNESSoENLARGEMENToPATTERNoRITUALoFLIGHToVASTNESS OR WASTINGoCONSTAN
CYoMEASUREoETERNITYoUNITYoDIMINISHMENToCLOSED MOUTHoGUARDEDNESSpATHERING INoMASSINGoACCUMULATION
oEMBELLISHMENToDOUBToWATCHoSINKINGoINNERoDEPARTUREpARKENINGpIMMINGoEXHAUSTIONoSEVERANCEpTOPPAGEo
HARDNESSoCOMPLETIONpLOSUREoFAILUREoAGGRAVATIONoCOMPLIANCEoON THE VERGEoDIFFICULTIESoLABOURINGoFO
STERING(1D360)aCOUNTING ROD UNIT DIGIT ONEyTWOzHREEyFOURzIVEySIXzEVENyEIGHTyNINEnTENS DIGIT ONEy
TWOzHREEyFOURzIVEySIXzEVENyEIGHTyNINEaIDEOGRAPHIC TALLY MARK ONExTWOyHREExFOURyIVEaTALLY MARK ON
ElFIVE(1D400)aMATHEMATICAL BOLD CAPITAL A!B!C!D!E!F!G!H!I!J!K!L!M!N!O!P!Q!R!S!T!U!V!W!X!Y!ZsSMAL
L AyByCyDyEyFyGyHyIyJyKyLyMyNyOyPyQyRySyTyUyVyWyXyYyZnITALIC CAPITAL A%B%C%D%E%F%G%H%I%J%K%L%M%N
%O%P%Q%R%S%T%U%V%W%X%Y%ZuSMALL A!B!C!D!E!F!G(1D456)!I!J!K!L!M!N!O!P!Q!R!S!T!U!V!W!X!Y!ZnBOLD ITA
LIC CAPITAL A:B:C:D:E:F:G:H:I:J:K:L:M:N:O:P:Q:R:S:T:U:V:W:X:Y:ZzSMALL A+B+C+D+E+F+G+H+I+J+K+L+M+
N+O+P+Q+R+S+T+U+V+W+X+Y+ZnSCRIPT CAPITAL A(1D49E)%C%D(1D4A2)%G(1D4A5)%J%K(1D4A9)%N%O%P%Q(1D4AE)%
S%T%U%V%W%X%Y%ZuSMALL A!B!C!D(1D4BB)!F(1D4BD)!H!I!J!K!L!M!N(1D4C5)!P!Q!R!S!T!U!V!W!X!Y!ZnBOLD SC
RIPT CAPITAL A:B:C:D:E:F:G:H:I:J:K:L:M:N:O:P:Q:R:S:T:U:V:W:X:Y:ZzSMALL A+B+C+D+E+F+G+H+I+J+K+L+M
+N+O+P+Q+R+S+T+U+V+W+X+Y+ZnFRAKTUR CAPITAL A&B(1D507)&D&E&F&G(1D50D)&J&K&L&M&N&O&P&Q(1D516)&S&T&
U&V&W&X&Y(1D51E)vSMALL A$B$C$D$E$F$G$H$I$J$K$L$M$N$O$P$Q$R$S$T$U$V$W$X$Y$ZnDOUBLE-STRUCK CAPITAL
 A<B(1D53B)<D<E<F<G(1D540)<I<J<K<L<M(1D546)<O(1D54A)<S<T<U<V<W<X<Y(1D552)$SMALL A:B:C:D:E:F:G:H:
I:J:K:L:M:N:O:P:Q:R:S:T:U:V:W:X:Y:ZnBOLD FRAKTUR CAPITAL A;B;C;D;E;F;G;H;I;J;K;L;M;N;O;P;Q;R;S;T
;U;V;W;X;Y;Z!SMALL A,B,C,D,E,F,G,H,I,J,K,L,M,N,O,P,Q,R,S,T,U,V,W,X,Y,ZnSANS-SERIF CAPITAL A,B,C,
D,E,F,G,H,I,J,K,L,M,N,O,P,Q,R,S,T,U,V,W,X,Y,ZySMALL A*B*C*D*E*F*G*H*I*J*K*L*M*N*O*P*Q*R*S*T*U*V*
W*X*Y*ZyBOLD CAPITAL A>B>C>D>E>F>G>H>I>J>K>L>M>N>O>P>Q>R>S>T>U>V>W>X>Y>Z&SMALL A<B<C<D<E<F<G<H<I
<J<K<L<M<N<O<P<Q<R<S<T<U<V<W<X<Y<ZyITALIC CAPITAL A@B@C@D@E@F@G@H@I@J@K@L@M@N@O@P@Q@R@S@T@U@V@W@
X@Y@Z+SMALL A>B>C>D>E>F>G>H>I>J>K>L>M>N>O>P>Q>R>S>T>U>V>W>X>Y>ZyBOLD ITALIC CAPITAL A_AL B_AL C_
AL D_AL E_AL F_AL G_AL H_AL I_AL J_AL K_AL L_AL M_AL N_AL O_AL P_AL Q_AL R_AL S_AL T_AL U_AL V_A
L W_AL X_AL Y_AL Z=SMALL A_ B_ C_ D_ E_ F_ G_ H_ I_ J_ K_ L_ M_ N_ O_ P_ Q_ R_ S_ T_ U_ V_ W_ X_
 Y_ ZnMONOSPACE CAPITAL A+B+C+D+E+F+G+H+I+J+K+L+M+N+O+P+Q+R+S+T+U+V+W+X+Y+ZxSMALL A&B&C&D&E&F&G&
H&I&J&K&L&M&N&O&P&Q&R&S&T&U&V&W&X&Y&ZnITALIC SMALL DOTLESS I;J(1D6A8)nBOLD CAPITAL ALPHA!BETA!GA
MMA!DELTA!EPSILON!ZETA!ETA!THETA!IOTA!KAPPA!LAMDA!MU!NU!XI!OMICRON!PI!RHO!THETA SYMBOL!SIGMA!TAU
!UPSILON!PHI!CHI!PSI!OMEGAsNABLAsSMALL ALPHAyBETAyGAMMAyDELTAyEPSILONyZETAyETAyTHETAyIOTAyKAPPAy
LAMDAyMUyNUyXIyOMICRONyPIyRHOyFINAL SIGMAySIGMAyTAUyUPSILONyPHIyCHIyPSIyOMEGAsPARTIAL DIFFERENTI
ALsEPSILON SYMBOLsTHETA SYMBOLsKAPPA SYMBOLsPHI SYMBOLsRHO SYMBOLsPI SYMBOLnITALIC CAPITAL ALPHA
%BETA%GAMMA%DELTA%EPSILON%ZETA%ETA%THETA%IOTA%KAPPA%LAMDA%MU%NU%XI%OMICRON%PI%RHO%THETA SYMBOL%S
IGMA%TAU%UPSILON%PHI%CHI%PSI%OMEGAuNABLAuSMALL ALPHA!BETA!GAMMA!DELTA!EPSILON!ZETA!ETA!THETA!IOT
A!KAPPA!LAMDA!MU!NU!XI!OMICRON!PI!RHO!FINAL SIGMA!SIGMA!TAU!UPSILON!PHI!CHI!PSI!OMEGAuPARTIAL DI
FFERENTIALuEPSILON SYMBOLuTHETA SYMBOLuKAPPA SYMBOLuPHI SYMBOLuRHO SYMBOLuPI SYMBOLnBOLD ITALIC 
CAPITAL ALPHA:BETA:GAMMA:DELTA:EPSILON:ZETA:ETA:THETA:IOTA:KAPPA:LAMDA:MU:NU:XI:OMICRON:PI:RHO:T
HETA SYMBOL:SIGMA:TAU:UPSILON:PHI:CHI:PSI:OMEGAzNABLAzSMALL ALPHA+BETA+GAMMA+DELTA+EPSILON+ZETA+
ETA+THETA+IOTA+KAPPA+LAMDA+MU+NU+XI+OMICRON+PI+RHO+FINAL SIGMA+SIGMA+TAU+UPSILON+PHI+CHI+PSI+OME
GAzPARTIAL DIFFERENTIALzEPSILON SYMBOLzTHETA SYMBOLzKAPPA SYMBOLzPHI SYMBOLzRHO SYMBOLzPI SYMBOL
nSANS-SERIF BOLD CAPITAL ALPHA>BETA>GAMMA>DELTA>EPSILON>ZETA>ETA>THETA>IOTA>KAPPA>LAMDA>MU>NU>XI
>OMICRON>PI>RHO>THETA SYMBOL>SIGMA>TAU>UPSILON>PHI>CHI>PSI>OMEGA&NABLA&SMALL ALPHA<BETA<GAMMA<DE
LTA<EPSILON<ZETA<ETA<THETA<IOTA<KAPPA<LAMDA<MU<NU<XI<OMICRON<PI<RHO<FINAL SIGMA<SIGMA<TAU<UPSILO
N<PHI<CHI<PSI<OMEGA&PARTIAL DIFFERENTIAL&EPSILON SYMBOL&THETA SYMBOL&KAPPA SYMBOL&PHI SYMBOL&RHO
 SYMBOL&PI SYMBOL&ITALIC CAPITAL ALPHA_AL BETA_AL GAMMA_AL DELTA_AL EPSILON_AL ZETA_AL ETA_AL TH
ETA_AL IOTA_AL KAPPA_AL LAMDA_AL MU_AL NU_AL XI_AL OMICRON_AL PI_AL RHO_AL THETA SYMBOL_AL SIGMA
_AL TAU_AL UPSILON_AL PHI_AL CHI_AL PSI_AL OMEGA=NABLA=SMALL ALPHA_ BETA_ GAMMA_ DELTA_ EPSILON_
 ZETA_ ETA_ THETA_ IOTA_ KAPPA_ LAMDA_ MU_ NU_ XI_ OMICRON_ PI_ RHO_ FINAL SIGMA_ SIGMA_ TAU_ UP
SILON_ PHI_ CHI_ PSI_ OMEGA=PARTIAL DIFFERENTIAL=EPSILON SYMBOL=THETA SYMBOL=KAPPA SYMBOL=PHI SY
MBOL=RHO SYMBOL=PI SYMBOLnBOLD CAPITAL DIGAMMAsSMALL DIGAMMA(1D7CE)sDIGIT ZEROyONEyTWOzHREEyFOUR
zIVEySIXzEVENyEIGHTyNINEnDOUBLE-STRUCK DIGIT ZERO:ONE:TWO;HREE:FOUR;IVE:SIX;EVEN:EIGHT:NINEnSANS
-SERIF DIGIT ZERO*ONE*TWO+HREE*FOUR+IVE*SIX+EVEN*EIGHT*NINEyBOLD DIGIT ZERO<ONE<TWO=HREE<FOUR=IV
E<SIX=EVEN<EIGHT<NINEnMONOSPACE DIGIT ZERO&ONE&TWO*HREE&FOUR*IVE&SIX*EVEN&EIGHT&NINEaSIGNWRITING
 HAND-FIST INDEXrCIRCLE INDEXsUP INDEXrOVAL INDEXrHINGE INDEXrANGLE INDEXrFIST INDEX BENTrCIRCLE
 INDEX BENTrFIST THUMB UNDER INDEX BENTwINDEX RAISED KNUCKLE%CUPPED%HINGED; LOWrCIRCLE INDEX HIN
GErFIST INDEX MIDDLErCIRCLE INDEX MIDDLErFIST INDEX MIDDLE BENT<RAISED KNUCKLES<HINGED%UP MIDDLE
 HINGED%HINGED MIDDLE UP%MIDDLE CONJOINED_NED INDEX BENT_NED MIDDLE BENT_NED CUPPED_NED HINGED=R
OSSEDrCIRCLE INDEX MIDDLE CROSSEDrFIST MIDDLE BENT OVER INDEXwINDEX BENT OVER MIDDLE%MIDDLE THUM
BrCIRCLE INDEX MIDDLE THUMBrFIST INDEX MIDDLE STRAIGHT THUMB BENT<BENT THUMB STRAIGHT<THUMB BENT
<HINGED SPREAD THUMB SIDE%UP MIDDLE HINGED THUMB SIDE_GED THUMB CONJOINED%HINGED MIDDLE UP THUMB
 SIDE%MIDDLE UP SPREAD THUMB FORWARD<THUMB CUPPED_CIRCLED_HOOKED_HINGEDwTHUMB BETWEEN INDEX MIDD
LE STRAIGHTwINDEX MIDDLE CONJOINED THUMB SIDE_NED THUMB SIDE CONJOINED_NED THUMB SIDE BENTwMIDDL
E THUMB HOOKED INDEX UPwINDEX THUMB HOOKED MIDDLE UP%MIDDLE CONJOINED HINGED THUMB SIDE=ROSSED T
HUMB SIDE=ONJOINED THUMB FORWARD_NED CUPPED THUMB FORWARDwMIDDLE THUMB CUPPED INDEX UPwINDEX THU
MB CUPPED MIDDLE UPwMIDDLE THUMB CIRCLED INDEX UP_D INDEX HINGEDwINDEX THUMB ANGLED OUT MIDDLE U
P_IN MIDDLE UP;CIRCLED MIDDLE UP%MIDDLE THUMB CONJOINED HINGED_ANGLED OUT_ANGLEDwMIDDLE THUMB AN
GLED OUT INDEX UP_ OUT INDEX CROSSED_ INDEX UPwINDEX THUMB HOOKED MIDDLE HINGEDsLAT FOUR FINGERS
; BENT<HINGED<CONJOINED_NED SPLITrCLAW FOUR FINGERS CONJOINEDrFIST FOUR FINGERS CONJOINED BENTrH
INGE FOUR FINGERS CONJOINEDrFLAT FIVE FINGERS SPREADwHEEL FIVE FINGERS SPREADwFIVE FINGERS SPREA
D FOUR BENTwHEEL FIVE FINGERS SPREAD FOUR BENTwFIVE FINGERS SPREAD BENTwHEEL FIVE FINGERS SPREAD
 BENTwFIVE FINGERS SPREAD THUMB FORWARDrCUP FIVE FINGERS SPREAD^ OPENrHINGE FIVE FINGERS SPREAD 
OPENrOVAL FIVE FINGERS SPREADrFLAT FIVE FINGERS SPREAD HINGED_ HINGED THUMB SIDE_ HINGED NO THUM
Bvv BETWEEN PALM FACINGSwHEELwTHUMB SIDEwHEEL THUMB SIDEwTHUMB BENT%FORWARDwSPLIT INDEX THUMB SI
DE%CENTRE; THUMB SIDE_SIDE BENT%LITTLErCLAWv THUMB SIDEwNO THUMBwTHUMB FORWARDrHOOK CURLICUEvrCU
P OPENuu OPEN THUMB SIDEvTHUMB SIDEvOPEN NO THUMBvNO THUMBvOPEN THUMB FORWARDvTHUMB FORWARDtRLIC
UE OPENzsIRCLErOVALv THUMB SIDEwNO THUMBwTHUMB FORWARDrHINGE OPEN$ THUMB FORWARDww SMALLxOPEN TH
UMB SIDExTHUMB SIDExOPEN NO THUMBxNO THUMBxTHUMB SIDE TOUCHING INDEX&BETWEEN MIDDLE RINGrANGLErF
IST INDEX MIDDLE RINGrCIRCLE INDEX MIDDLE RINGrHINGE INDEX MIDDLE RINGrANGLE INDEX MIDDLE RINGrH
INGE LITTLErFIST INDEX MIDDLE RING BENT^CONJOINEDrHINGE INDEX MIDDLE RING CONJOINEDrFIST LITTLE 
DOWN: RIPPLE STRAIGHT_CURVED;OTHERS CIRCLED&UPwTHUMB UNDER LITTLE UPrCIRCLE LITTLE UPrOVAL LITTL
E UPrANGLE LITTLE UPrFIST LITTLE RAISED KNUCKLE&BENT&TOUCHES THUMB*HUMBrHINGE LITTLE THUMBrFIST 
LITTLE INDEX THUMBrHINGE LITTLE INDEX THUMBrANGLE LITTLE INDEX THUMB INDEX THUMB OUT_ INDEX THUM
BrFIST LITTLE INDEXrCIRCLE LITTLE INDEXrHINGE LITTLE INDEXrANGLE LITTLE INDEXrFIST INDEX MIDDLE 
LITTLErCIRCLE INDEX MIDDLE LITTLErHINGE INDEX MIDDLE LITTLExRINGrANGLE INDEX MIDDLE LITTLErFIST 
INDEX MIDDLE CROSS LITTLErCIRCLE INDEX MIDDLE CROSS LITTLErFIST RING DOWNrHINGE RING DOWN INDEX 
THUMB HOOK MIDDLErANGLE RING DOWN MIDDLE THUMB INDEX CROSSrFIST RING UP$RAISED KNUCKLE$LITTLErCI
RCLE RING LITTLErOVAL RING LITTLErANGLE RING LITTLErFIST RING MIDDLE: CONJOINED;RAISED KNUCKLES$
INDEX$THUMBrHOOK RING THUMBrFIST INDEX RING LITTLErCIRCLE INDEX RING LITTLEsURLICUE INDEX RING L
ITTLE ONrHOOK INDEX RING LITTLE OUT^IN^UNDERrCUP INDEX RING LITTLErHINGE INDEX RING LITTLErANGLE
 INDEX RING LITTLE OUT^rFIST MIDDLE DOWNrHINGE MIDDLErFIST MIDDLE UPrCIRCLE MIDDLE UPrFIST MIDDL
E RAISED KNUCKLE&UP THUMB SIDErHOOK MIDDLE THUMBrFIST MIDDLE THUMB LITTLE&LITTLE&RING LITTLErCIR
CLE MIDDLE RING LITTLEsURLICUE MIDDLE RING LITTLE ONtP MIDDLE RING LITTLErHINGE MIDDLE RING LITT
LErANGLE MIDDLE RING LITTLE OUT_ IN_rCIRCLE MIDDLE RING LITTLE BENTsLAW MIDDLE RING LITTLE CONJO
INED_CONJOINED SIDErHOOK MIDDLE RING LITTLE CONJOINED OUT_CONJOINED IN_CONJOINEDsINGE INDEX HING
EDrFIST INDEX THUMB SIDErHINGE INDEX THUMB SIDErFIST INDEX THUMB SIDE THUMB DIAGONAL_UMB CONJOIN
ED_UMB BENT@INDEX BENT@BOTH BENT@INDEX HINGE;FORWARD INDEX STRAIGHT_ INDEX BENT;HOOK;CURLICUE>VE
 THUMB INSIDErCLAW INDEX THUMB CURVE THUMB INSIDErFIST INDEX THUMB CURVE THUMB UNDER<IRCLErCUP I
NDEX THUMB, OPENrHINGE INDEX THUMB OPEN<LARGE;; SMALLrANGLE INDEX THUMB OUT<IN;rFIST THUMB$ HEEL
%SIDE DIAGONAL:CONJOINED:BENT%FORWARD%BETWEEN INDEX MIDDLE=MIDDLE RING=RING LITTLE%UNDER TWO FIN
GERS%OVER TWO FINGERS%UNDER THREE FINGERS;FOUR FINGERS%OVER FOUR RAISED KNUCKLESvv HEELmTOUCH SI
NGLEsMULTIPLEsBETWEENmGRASP SINGLEsMULTIPLEsBETWEENmSTRIKE SINGLEtMULTIPLEtBETWEENmBRUSH SINGLEs
MULTIPLEsBETWEENmRUB SINGLEqMULTIPLEqBETWEENmSURFACE SYMBOLSuBETWEENnQUEEZE LARGE SINGLEuSMALL S
INGLEuLARGE MULTIPLEuSMALL MULTIPLEvEQUENTIALmFLICK LARGE SINGLEsSMALL SINGLEsLARGE MULTIPLEsSMA
LL MULTIPLEtEQUENTIALmSQUEEZE FLICK ALTERNATINGmMOVEMENT-HINGE UP DOWN LARGE<SMALL*SEQUENTIAL$DO
WN SEQUENTIAL$UP DOWN ALTERNATING LARGE_ATING SMALL$SIDE TO SIDE SCISSORSvWALLPLANE FINGER CONTA
CTvFLOORPLANE FINGER CONTACTvWALLPLANE SINGLE STRAIGHT SMALL_AIGHT MEDIUM_AIGHT LARGE_AIGHT LARG
EST?WRIST FLEX+DOUBLE STRAIGHT?WRIST FLEX?ALTERNATING_ERNATING WRIST FLEX+CROSS+TRIPLE STRAIGHT 
MOVEMENT?WRIST FLEX?ALTERNATING_ERNATING WRIST FLEX+BEND SMALL=MEDIUM=LARGE+CORNER SMALL?MEDIUM?
LARGE?ROTATION,HECK SMALL>MEDIUM>LARGE+BOX SMALL<MEDIUM<LARGE+ZIGZAG SMALL?MEDIUM?LARGE+PEAKS SM
ALL>MEDIUM>LARGEmTRAVEL-WALLPLANE ROTATION-WALLPLANE SINGLE_LPLANE DOUBLE_LPLANE ALTERNATING?FLO
ORPLANE SINGLE_ORPLANE DOUBLE_ORPLANE ALTERNATING&SHAKING&ARM SPIRAL SINGLE^DOUBLE^TRIPLEmMOVEME
NT-DIAGONAL AWAY SMALL<MEDIUM<LARGE^ST*TOWARDS SMALL?MEDIUM?LARGE_GEST*BETWEEN AWAY SMALL_Y MEDI
UM_Y LARGE_Y LARGEST?TOWARDS SMALL_ARDS MEDIUM_ARDS LARGE_ARDS LARGESTvFLOORPLANE SINGLE STRAIGH
T SMALL_RAIGHT MEDIUM_RAIGHT LARGE_RAIGHT LARGEST@WRIST FLEX,DOUBLE STRAIGHT@WRIST FLEX@ALTERNAT
ING_TERNATING WRIST FLEX,CROSS,TRIPLE STRAIGHT MOVEMENT@WRIST FLEX@ALTERNATING MOVEMENT_TERNATIN
G WRIST FLEX,BEND,CORNER SMALL@MEDIUM@LARGE:HECK,BOX SMALL=MEDIUM=LARGE,ZIGZAG SMALL@MEDIUM@LARG
E,PEAKS SMALL?MEDIUM?LARGEmTRAVEL-FLOORPLANE ROTATION-FLOORPLANE SINGLE_OORPLANE DOUBLE_OORPLANE
 ALTERNATING@WALLPLANE SINGLE_LLPLANE DOUBLE_LLPLANE ALTERNATING*SHAKINGmMOVEMENT-WALLPLANE CURV
E QUARTER SMALL_TER MEDIUM_TER LARGE_TER LARGEST>HALF-CIRCLE SMALL_-CIRCLE MEDIUM_-CIRCLE LARGE_
-CIRCLE LARGEST>THREE-QUARTER CIRCLE SMALL_E-QUARTER CIRCLE MEDIUM+HUMP SMALL=MEDIUM=LARGE+LOOP 
SMALL=MEDIUM=LARGE=SMALL DOUBLE+WAVE CURVE DOUBLE SMALL_ DOUBLE MEDIUM_ DOUBLE LARGE_ TRIPLE SMA
LL_ TRIPLE MEDIUM_ TRIPLE LARGE+CURVE THEN STRAIGHT=D CROSS SMALL_SS MEDIUMmROTATION-WALLPLANE S
INGLE+DOUBLE+ALTERNATEmMOVEMENT-WALLPLANE SHAKING+CURVE HITTING FRONT WALL+HUMP HITTING FRONT WA
LL+LOOP HITTING FRONT WALL+WAVE HITTING FRONT WALLmROTATION-WALLPLANE SINGLE HITTING FRONT WALL+
DOUBLE HITTING FRONT WALL+ALTERNATING HITTING FRONT WALLmMOVEMENT-WALLPLANE CURVE HITTING CHEST+
HUMP HITTING CHEST+LOOP HITTING CHEST+WAVE HITTING CHESTmROTATION-WALLPLANE SINGLE HITTING CHEST
+DOUBLE HITTING CHEST+ALTERNATING HITTING CHESTmMOVEMENT-WALLPLANE WAVE DIAGONAL PATH SMALL_NAL 
PATH MEDIUM_NAL PATH LARGEvFLOORPLANE CURVE HITTING CEILING SMALL_TING CEILING LARGE,HUMP HITTIN
G CEILING SMALL DOUBLE_ING CEILING LARGE DOUBLE_ING CEILING SMALL TRIPLE_ING CEILING LARGE TRIPL
E,LOOP HITTING CEILING SMALL SINGLE_ING CEILING LARGE SINGLE_ING CEILING SMALL DOUBLE_ING CEILIN
G LARGE DOUBLE,WAVE HITTING CEILING SMALL_ING CEILING LARGEmROTATION-FLOORPLANE SINGLE HITTING C
EILING,DOUBLE HITTING CEILING,ALTERNATING HITTING CEILINGmMOVEMENT-FLOORPLANE CURVE HITTING FLOO
R SMALL_TING FLOOR LARGE,HUMP HITTING FLOOR SMALL DOUBLE_ING FLOOR LARGE DOUBLE_ING FLOOR TRIPLE
 SMALL TRIPLE_ING FLOOR TRIPLE LARGE TRIPLE,LOOP HITTING FLOOR SMALL SINGLE_ING FLOOR LARGE SING
LE_ING FLOOR SMALL DOUBLE_ING FLOOR LARGE DOUBLE,WAVE HITTING FLOOR SMALL_ING FLOOR LARGEmROTATI
ON-FLOORPLANE SINGLE HITTING FLOOR,DOUBLE HITTING FLOOR,ALTERNATING HITTING FLOORmMOVEMENT-FLOOR
PLANE CURVE SMALL?MEDIUM?LARGE_GEST?COMBINED,HUMP SMALL,LOOP SMALL,WAVE SNAKE?MALL>LARGEmROTATIO
N-FLOORPLANE SINGLE,DOUBLE,ALTERNATINGmMOVEMENT-FLOORPLANE SHAKING PARALLELvWALLPLANE ARM CIRCLE
 SMALL SINGLE_ MEDIUM SINGLE_ SMALL DOUBLE_ MEDIUM DOUBLEvFLOORPLANE ARM CIRCLE HITTING WALL SMA
LL SINGLE_E HITTING WALL MEDIUM SINGLE_E HITTING WALL LARGE SINGLE_E HITTING WALL SMALL DOUBLE_E
 HITTING WALL MEDIUM DOUBLE_E HITTING WALL LARGE DOUBLEvWALLPLANE WRIST CIRCLE FRONT SINGLE_LE F
RONT DOUBLEvFLOORPLANE WRIST CIRCLE HITTING WALL SINGLE_CLE HITTING WALL DOUBLEvWALLPLANE FINGER
 CIRCLES SINGLE_CLES DOUBLEvFLOORPLANE FINGER CIRCLES HITTING WALL SINGLE_RCLES HITTING WALL DOU
BLEmDYNAMIC ARROWHEAD SMALL*LARGEuFASTuSLOWuTENSEuRELAXEDuSIMULTANEOUS, ALTERNATINGuEVERY OTHER 
TIMEuGRADUALmHEADq RIMrMOVEMENT-WALLPLANE STRAIGHT=TILT!FLOORPLANE STRAIGHT!WALLPLANE CURVE!FLOO
RPLANE CURVEz CIRCLEmFACE DIRECTION POSITION NOSE FORWARD TILTING_UP OR DOWN_UP OR DOWN TILTINGm
EYEBROWS STRAIGHT UP*NEUTRAL*DOWNmDREAMY EYEBROWS NEUTRAL DOWN%DOWN NEUTRAL%UP NEUTRAL%NEUTRAL U
PmFOREHEAD NEUTRALvCONTACTvWRINKLEDmEYES OPENrSQUEEZEDrCLOSEDp BLINK SINGLEwMULTIPLEpS HALF OPEN
rWIDE OPENrHALF CLOSEDrWIDENING MOVEMENTp WINKpLASHES UPwDOWNwFLUTTERINGpGAZE-WALLPLANE STRAIGHT
? DOUBLE@ALTERNATINGuFLOORPLANE STRAIGHT@ DOUBLE^ALTERNATINGuWALLPLANE CURVEDuFLOORPLANE CURVEDu
WALLPLANE CIRCLINGmCHEEKS PUFFEDtNEUTRALtSUCKEDmTENSE CHEEKS HIGHzMIDDLEzLOWmEARSmNOSE NEUTRALrC
ONTACTrWRINKLESsIGGLESmAIR BLOWING OUTqSUCKING INqBLOW SMALL ROTATIONSqSUCK SMALL ROTATIONSmBREA
TH INHALEtEXHALEmMOUTH CLOSED NEUTRALzFORWARDzCONTACTsSMILEx WRINKLEDyOPENsFROWNx WRINKLEDyOPENs
OPEN CIRCLExFORWARDxWRINKLEDxOVAL$ WRINKLED%YAWNxRECTANGLE, WRINKLED:YAWNsKISSw FORWARDxWRINKLED
sTENSEx FORWARDySUCKEDmLIPS PRESSED TOGETHERp LOWER OVER UPPERqUPPER OVER LOWERmMOUTH CORNERSsWR
INKLES SINGLE$DOUBLEmTONGUE STICKING OUT FARtLICKING LIPStTIP BETWEEN LIPSxTOUCHING INSIDE MOUTH
tINSIDE MOUTH RELAXEDtMOVES AGAINST CHEEKtCENTRE STICKING OUT!INSIDE MOUTHnEETHr MOVEMENTsON TON
GUE$ MOVEMENTvLIPSz MOVEMENTsBITE LIPSmMOVEMENT-WALLPLANE JAWvFLOORPLANE JAWmNECKmHAIRmEXCITEMEN
TmSHOULDER HIP SPINEzPOSITIONSmWALLPLANE SHOULDER HIP MOVEmFLOORPLANE SHOULDER HIP MOVEmSHOULDER
 TILTING FROM WAISTmTORSO-WALLPLANE STRAIGHT STRETCH%CURVED BENDsFLOORPLANE TWISTINGmUPPER BODY 
TILTING FROM HIP JOINTSmLIMB COMBINATIONrLENGTH-1y2y3y4y5y6y7mFINGERmLOCATION-WALLPLANE SPACEvFL
OORPLANE SPACEu HEIGHTvWIDTHvDEPTHvHEAD NECKvTORSOvLIMBS DIGITSmCOMMAmFULL STOPmSEMICOLONmCOLONm
PARENTHESIS(1DA9B)mFILL MODIFIER-2!3!4!5!6(1DAA1)mROTATION MODIFIER-2*3*4*5*6*7*8*9*10+1+2+3+4+5
+6(1DF00)aLATIN SMALL LETTER FENG DIGRAPH WITH TRILLtREVERSED SCRIPT GgLETTER SMALL CAPITAL TURN
ED GgSMALL LETTER REVERSED KgLETTER SMALL CAPITAL L WITH BELTgSMALL LETTER LEZH WITH RETROFLEX H
OOKtTURNED Y WITH BELTtREVERSED ENGtTURNED R WITH LONG LEG AND RETROFLEX HOOKu WITH HOOK AND RET
ROFLEX HOOKgLETTER RETROFLEX CLICK WITH RETROFLEX HOOKgSMALL LETTER ESH WITH DOUBLE BAR? AND CUR
LtTURNED T WITH CURLgLETTER INVERTED GLOTTAL STOP WITH CURLnSTRETCHED C WITH CURLoMALL CAPITAL T
URNED KgSMALL LETTER L WITH FISHHOOKtDEZH DIGRAPH WITH PALATAL HOOKtL WITH BELT AND PALATAL HOOK
tENG WITH PALATAL HOOKtTURNED R WITH PALATAL HOOKtR WITH FISHHOOK AND PALATAL HOOKtTESH DIGRAPH 
WITH PALATAL HOOKtEZH WITH PALATAL HOOKtDEZH DIGRAPH WITH RETROFLEX HOOKtI WITH STROKE AND RETRO
FLEX HOOKtO WITH RETROFLEX HOOKtTESH DIGRAPH WITH RETROFLEX HOOKtC WITH RETROFLEX HOOKtS WITH CU
RL(1E000)aCOMBINING GLAGOLITIC LETTER AZU%BUKY%VEDE%GLAGOLI%DOBRO%YESTU%ZHIVETE(1E008)&EMLJA%IZH
E&NITIAL IZHE&%DJERVI%KAKO%LJUDIJE%MYSLITE%NASHI%ONU%POKOJI%RITSI%SLOVO%TVRIDO%UKU%FRITU%HERU(1E
01B)%SHTA%TSI%CHRIVI%SHA%YERU+I&ATI(1E023)&U%SMALL YUS(1E026)%YO%IOTATED SMALL YUS%BIG YUS%IOTAT
ED BIG YUS%FITA(1E100)aNYIAKENG PUACHUE HMONG LETTER MA*TSA*NTA*TA*HA*NA*XA*NKA*CA*LA*SA*ZA*NCA+
TSA*KA*DA*NYA+RA*VA*NTXA*TXA*FA*RA*QA*YA*NQA*PA*XYA*NPA*DLA*NPLA*HAH*MLA*PLA*GA*RRA*A+A*I*U*O+O*
E+E*W(1E130)xTONE-B%M%J%V%S%G%DxSIGN FOR PERSON,THING,LOCATION,ANIMAL,INVERTEBRATE%XW XWyYLLABLE
 LENGTHENER(1E140)xDIGIT ZERO&ONE&TWO*HREE&FOUR*IVE&SIX*EVEN&EIGHT&NINE(1E14E)xLOGOGRAM NYAJxCIR
CLED CA(1E290)aTOTO LETTER PAmBAmTAmDAmKAmGAmMAmNAnGAmSAmCHAmYAmWAmJAmHAmRAmLAmImBREATHY ImIUmBR
EATHY IUmUmEmBREATHY EmEOmBREATHY EOmOmAEmBREATHY AEmAfSIGN RISING TONE(1E2C0)aWANCHO LETTER AAp
oBAoCAoDAoGAoYAoPHAoLAoNAoPAoTApHAoFAoSApHAoJAoZAoWAoVAoKAoOoAUoRAoMAoKHAoHAoEoIoNGAoUoLLHAoTSAp
RAoONGoAANGpNGoINGoONoENoAANoNYAoUENoYIHhTONE TUPpNImKOIpNIhDIGIT ZEROnONEnTWOoHREEnFOURoIVEnSIX
oEVENnEIGHTnNINE(1E2FF)hNGUN SIGN(1E7E0)aETHIOPIC SYLLABLE HHYAvUvIvAAvEEwvO(1E7E8)sGURAGE HHWAs
HHWIvEEw(1E7ED)sGURAGE MWI$EE(1E7F0)zQWI$EE%zBWI$EEzKWI$EE%zGWI$EE%zFWI$EEzPWI$EE(1E800)aMENDE K
IKAKUI SYLLABLE M001 KI!2 KA!3 KUz65 KEEz95 KEz76 KOOz48 KOy179 KUAy004 WI!5 WA!6 WUy126 WEEz18 
WE!4 WOOy045 WOy194 WUIz43 WEIy061 WVIz49 WVAy139 WVEy007 MIN!8 MAN!9 MUNz59 MENz94 MONy154 MUAN
z89 MUENy010 BI!1 BA!2 BUy150 BEEy097 BEy103 BOOz38 BOy013 I!4 A!5 Uy163 EEz00 Ez65 OOz47 Oz37 E
I!1 IN!5 INz95 ANz78 ENy019 SIz20 SA!1 SUy162 SEEz16 SEz36 SOOy079 SOy196 SIAy025 LI!6 LA!7 LUz8
4 LEEz73 LEz54 LOOy153 LOz10 LONG LEy016 DI!7 DA!8 DUz89 DEEy180 DOO!1 DOy022 TI!3 TA!4 TUz91 TE
Ez55 TEy104 TOOy069 TOz28 JI!9 JAz30 JUy157 JEEz13 JEz60 JOOy063 JOy175 LONG JOy031 YI!2 YA!3 YU
y109 YEEy080 YEy141 YOOz21 YOy034 FI!5 FA!6 FUz78 FEE!5 FEy133 FOOy088 FOy197 FUAz01 FANy037 NIN
!8 NAN!9 NUNy117 NENz69 NONz76 HIy041 HAy186 HUy040 HEEz96 HEz42 HOOy140 HOy083 HEEIy128 HOOUy05
3 HINy130 HANy087 HUNz52 HENy193 HONy046 HUANz90 NGGIz43 NGGAz82 NGGUy115 NGGEEz46 NGGEz56 NGGOO
z20 NGGOz59 NGGAAz27 NGGUAy086 LONG NGGEy106 LONG NGGOOz83 LONG NGGOz55 GIz11 GAz68 GUz90 GEEz66
 GUEI!7 GUANz84 NGENy057 NGONy177 NGUANy068 PIz99 PAz50 PUz81 PEEz51 PEy102 POOy066 POy145 MBIy0
62 MBAy122 MBUy047 MBEEy188 MBEEy072 MBEy172 MBOO!4 MBOz87 MBUUz61 LONG MBEz05 LONG MBOOz42 LONG
 MBOz32 KPIy092 KPAz74 KPUz44 KPEEy108 KPEz12 KPOOz58 KPOz24 GBIy056 GBAy148 GBUy093 GBEEy107 GB
Ey071 GBOO!0 GBOy171 RAz23 NDI!9 NDA!5 NDUz91 NDEEz19 NDEy067 NDOO!4 NDOy152 NJAz92 NJUz49 NJEEz
34 NJOOz82 VI!5 VAz51 VUz73 VEEy085 VEy144 VOOy077 VOy164 NYINy058 NYANy170 NYUNy098 NYENz60 NYO
N(1E8C7)oDIGIT ONEuTWOvHREEuFOURvIVEuSIXvEVENuEIGHTuNINEoCOMBINING NUMBER TEENS:NS+HUNDREDS+THOU
SANDS,EN THOUSANDS+HUNDRED THOUSANDS+MILLIONS(1E900)aADLAM CAPITAL LETTER ALIFvDAALIvLAAMvMIIMvB
AvSINNYIIYHEvPEvBHEvRAvEvFAvIvOvDHAvYHEvWAWvNUNvKAFvYAvUvJIIMvCHIvHAvQAAFvGAvNYAvTUvNHAvVAvKHAvG
BEvZALvKPOvSHAgSMALL LETTER ALIFtDAALItLAAMtMIIMtBAtSINNYIIYHEtPEtBHEtRAtEtFAtItOtDHAtYHEtWAWtNU
NtKAFtYAtUtJIIMtCHItHAtQAAFtGAtNYAtTUtNHAtVAtKHAtGBEtZALtKPOtSHAgALIF LENGTHENERgVOWEL LENGTHENE
RgGEMINATION MARKgHAMZAgCONSONANT MODIFIERgGEMINATE CONSONANT MODIFIERgNUKTAhASALIZATION MARK(1E
950)gDIGIT ZEROmONEmTWOnHREEmFOURnIVEmSIXnEVENmEIGHTmNINE(1E95E)gINITIAL EXCLAMATION MARKoQUESTI
ON MARK(1EC71)aINDIC SIYAQ NUMBER ONEtTWOuHREEtFOURuIVEtSIXuEVENtEIGHTtNINEtTENuWENTYuHIRTYtFORT
YuIFTYtSIXTYuEVENTYtEIGHTYtNINETYtONE HUNDREDtTWO HUNDREDuHREE HUNDREDtFOUR HUNDREDuIVE HUNDREDt
SIX HUNDREDuEVEN HUNDREDtEIGHT HUNDREDtNINE HUNDREDtONE THOUSANDtTWO THOUSANDuHREE THOUSANDtFOUR
 THOUSANDuIVE THOUSANDtSIX THOUSANDuEVEN THOUSANDtEIGHT THOUSANDtNINE THOUSANDtTEN THOUSANDuWENT
Y THOUSANDuHIRTY THOUSANDtFORTY THOUSANDuIFTY THOUSANDtSIXTY THOUSANDuEVENTY THOUSANDtEIGHTY THO
USANDtNINETY THOUSANDtLAKHxANmLAKH MARKmNUMBER KARORyANtPREFIXED ONE%TWO&HREE%FOUR&IVE%SIX&EVEN%
EIGHT%NINEmPLACEHOLDERmFRACTION ONE QUARTERzHALFvTHREE QUARTERSmRUPEE MARKmNUMBER ALTERNATE ONE&
TWO*EN THOUSANDmALTERNATE LAKH MARK(1ED01)aOTTOMAN SIYAQ NUMBER ONEvTWOwHREEvFOURwIVEvSIXwEVENvE
IGHTvNINEvTENwWENTYwHIRTYvFORTYwIFTYvSIXTYwEVENTYvEIGHTYvNINETYvONE HUNDREDvTWO HUNDREDwHREE HUN
DREDvFOUR HUNDREDwIVE HUNDREDvSIX HUNDREDwEVEN HUNDREDvEIGHT HUNDREDvNINE HUNDREDvONE THOUSANDvT
WO THOUSANDwHREE THOUSANDvFOUR THOUSANDwIVE THOUSANDvSIX THOUSANDwEVEN THOUSANDvEIGHT THOUSANDvN
INE THOUSANDvTEN THOUSANDwWENTY THOUSANDwHIRTY THOUSANDvFORTY THOUSANDwIFTY THOUSANDvSIXTY THOUS
ANDwEVENTY THOUSANDvEIGHTY THOUSANDvNINETY THOUSANDoMARRATANoALTERNATE NUMBER TWO,HREE+FOUR,IVE+
SIX,EVEN+EIGHT+NINE+TEN+FOUR HUNDRED+SIX HUNDRED+TWO THOUSAND,EN THOUSANDoFRACTION ONE HALF$SIXT
H(1EE00)aARABIC MATHEMATICAL ALEFuBEHuJEEMuDAL(1EE05)uWAWuZAINuHAHuTAHuYEHuKAFuLAMuMEEMuNOONuSEE
NuAINuFEHuSADuQAFuREHuSHEENuTEHvHEHuKHAHuTHALuDADuZAHuGHAINuDOTLESS BEH%NOON%FEH%QAF(1EE21)uINIT
IAL BEH%JEEM(1EE24)%HEH(1EE27)&AH(1EE29)%YEH%KAF%LAM%MEEM%NOON%SEEN%AIN%FEH%SAD%QAF(1EE34)%SHEEN
%TEH&HEH%KHAH(1EE39)%DAD(1EE3B)%GHAIN(1EE42)uTAILED JEEM(1EE47)$HAH(1EE49)$YEH(1EE4B)$LAM(1EE4D)
$NOON$SEEN$AIN(1EE51)$SAD$QAF(1EE54)$SHEEN(1EE57)$KHAH(1EE59)$DAD(1EE5B)$GHAIN(1EE5D)$DOTLESS NO
ON(1EE5F)<QAF(1EE61)uSTRETCHED BEH*JEEM(1EE64)*HEH(1EE67)+AH*TAH*YEH*KAF(1EE6C)*MEEM*NOON*SEEN*A
IN*FEH*SAD*QAF(1EE74)*SHEEN*TEH+HEH*KHAH(1EE79)*DAD*ZAH*GHAIN*DOTLESS BEH(1EE7E)?FEH(1EE80)uLOOP
ED ALEF$BEH$JEEM$DAL$HEH$WAW$ZAIN$HAH$TAH$YEH(1EE8B)$LAM$MEEM$NOON$SEEN$AIN$FEH$SAD$QAF$REH$SHEE
N$TEH%HEH$KHAH$THAL$DAD$ZAH$GHAIN(1EEA1)uDOUBLE-STRUCK BEH;JEEM;DAL(1EEA5);WAW;ZAIN;HAH;TAH;YEH(
1EEAB);LAM;MEEM;NOON;SEEN;AIN;FEH;SAD;QAF;REH;SHEEN;TEH<HEH;KHAH;THAL;DAD;ZAH;GHAIN(1EEF0)uOPERA
TOR MEEM WITH HAH WITH TATWEEL&HAH WITH DAL(1F000)aMAHJONG TILE EAST WINDnSOUTH WINDnWEST WINDnN
ORTH WINDnRED DRAGONnGREEN DRAGONnWHITE DRAGONnONE OF CHARACTERSnTWO OF CHARACTERSoHREE OF CHARA
CTERSnFOUR OF CHARACTERSoIVE OF CHARACTERSnSIX OF CHARACTERSoEVEN OF CHARACTERSnEIGHT OF CHARACT
ERSnNINE OF CHARACTERSnONE OF BAMBOOSnTWO OF BAMBOOSoHREE OF BAMBOOSnFOUR OF BAMBOOSoIVE OF BAMB
OOSnSIX OF BAMBOOSoEVEN OF BAMBOOSnEIGHT OF BAMBOOSnNINE OF BAMBOOSnONE OF CIRCLESnTWO OF CIRCLE
SoHREE OF CIRCLESnFOUR OF CIRCLESoIVE OF CIRCLESnSIX OF CIRCLESoEVEN OF CIRCLESnEIGHT OF CIRCLES
nNINE OF CIRCLESnPLUMnORCHIDnBAMBOOnCHRYSANTHEMUMnSPRINGoUMMERnAUTUMNnWINTERnJOKERnBACK(1F030)aD
OMINO TILE HORIZONTAL BACKw-00-00$1$2$3$4$5$6y1-00$1$2$3$4$5$6y2-00$1$2$3$4$5$6y3-00$1$2$3$4$5$6
y4-00$1$2$3$4$5$6y5-00$1$2$3$4$5$6y6-00$1$2$3$4$5$6mVERTICAL BACKu-00-00z1z2z3z4z5z6w1-00z1z2z3z
4z5z6w2-00z1z2z3z4z5z6w3-00z1z2z3z4z5z6w4-00z1z2z3z4z5z6w5-00z1z2z3z4z5z6w6-00z1z2z3z4z5z6(1F0A0
)aPLAYING CARD BACKnACE OF SPADESnTWO OF SPADESoHREE OF SPADESnFOUR OF SPADESoIVE OF SPADESnSIX 
OF SPADESoEVEN OF SPADESnEIGHT OF SPADESnNINE OF SPADESnTEN OF SPADESnJACK OF SPADESnKNIGHT OF S
PADESnQUEEN OF SPADESnKING OF SPADES(1F0B1)nACE OF HEARTSnTWO OF HEARTSoHREE OF HEARTSnFOUR OF H
EARTSoIVE OF HEARTSnSIX OF HEARTSoEVEN OF HEARTSnEIGHT OF HEARTSnNINE OF HEARTSnTEN OF HEARTSnJA
CK OF HEARTSnKNIGHT OF HEARTSnQUEEN OF HEARTSnKING OF HEARTSnRED JOKER(1F0C1)nACE OF DIAMONDSnTW
O OF DIAMONDSoHREE OF DIAMONDSnFOUR OF DIAMONDSoIVE OF DIAMONDSnSIX OF DIAMONDSoEVEN OF DIAMONDS
nEIGHT OF DIAMONDSnNINE OF DIAMONDSnTEN OF DIAMONDSnJACK OF DIAMONDSnKNIGHT OF DIAMONDSnQUEEN OF
 DIAMONDSnKING OF DIAMONDSnBLACK JOKER(1F0D1)nACE OF CLUBSnTWO OF CLUBSoHREE OF CLUBSnFOUR OF CL
UBSoIVE OF CLUBSnSIX OF CLUBSoEVEN OF CLUBSnEIGHT OF CLUBSnNINE OF CLUBSnTEN OF CLUBSnJACK OF CL
UBSnKNIGHT OF CLUBSnQUEEN OF CLUBSnKING OF CLUBSnWHITE JOKERnFOOLnTRUMP-1t2t3t4t5t6t7t8t9t10u1u2
u3u4u5u6u7u8u9t20u1(1F100)aDIGIT ZERO FULL STOPlCOMMAgONE COMMAgTWO COMMAhHREE COMMAgFOUR COMMAh
IVE COMMAgSIX COMMAhEVEN COMMAgEIGHT COMMAgNINE COMMAcNGBAT CIRCLED SANS-SERIF DIGIT ZEROiNEGATI
VE CIRCLED SANS-SERIF DIGIT ZEROaCIRCLED ZERO WITH SLASHiANTICLOCKWISE ARROWiDOLLAR SIGN WITH OV
ERLAID BACKSLASHaPARENTHESIZED LATIN CAPITAL LETTER A<B<C<D<E<F<G<H<I<J<K<L<M<N<O<P<Q<R<S<T<U<V<
W<X<Y<ZaTORTOISE SHELL BRACKETED LATIN CAPITAL LETTER SaCIRCLED ITALIC LATIN CAPITAL LETTER C=Ri
CDiWZbOPYLEFT SYMBOLaSQUARED LATIN CAPITAL LETTER A&B&C&D&E&F&G&H&I&J&K&L&M&N&O&P&Q&R&S&T&U&V&W&
X&Y&ZiHViMViSDjSiPPViWCaNEGATIVE CIRCLED LATIN CAPITAL LETTER A?B?C?D?E?F?G?H?I?J?K?L?M?N?O?P?Q?
R?S?T?U?V?W?X?Y?ZaRAISED MC SIGNiD SIGNiR SIGNaCIRCLED CCj WITH OVERLAID BACKSLASHiHUMAN FIGUREa
NEGATIVE SQUARED LATIN CAPITAL LETTER A?B?C?D?E?F?G?H?I?J?K?L?M?N?O?P?Q?R?S?T?U?V?W?X?Y?ZaCROSSE
D NEGATIVE SQUARED LATIN CAPITAL LETTER PaNEGATIVE SQUARED ICrPArSArABrWCaSQUARE DJgD CLjOOLiFRE
EiIDiNEWjGiOKiSOSiUP WITH EXCLAMATION MARKiVSiTHREE DiSECOND SCREENiTWO KiFOUR KiEIGHT KiFIVE PO
INT ONEiSEVEN POINT ONEiTWENTY-TWO POINT TWOiSIXTY PiONE HUNDRED TWENTY PiLATIN SMALL LETTER DiH
CjDRjI-RESiLOSSLESSiSHViUHDiVODaMASK WORK SYMBOL(1F1E6)aREGIONAL INDICATOR SYMBOL LETTER A:B:C:D
:E:F:G:H:I:J:K:L:M:N:O:P:Q:R:S:T:U:V:W:X:Y:ZaSQUARE HIRAGANA HOKAgD KATAKANA KOKOrSA(1F210)iCJK 
UNIFIED IDEOGRAPH-624B*5B57+3CCiKATAKANA DEiCJK UNIFIED IDEOGRAPH-4E8C*591A*89E3*5929*4EA4*6620*
7121*6599*524D+F8C+18D*65B0*521D*7D42+51F*8CA9*58F0+439*6F14+295+355*4E00:9*904A*5DE6*4E2D*53F3*
6307*8D70*6253*7981+A7A*5408*6E80+709:8*7533*5272+5B6*914D(1F240)aTORTOISE SHELL BRACKETED CJK U
NIFIED IDEOGRAPH-672C_GRAPH-4E09_GRAPH-4E8C_GRAPH-5B89_GRAPH-70B9_GRAPH-6253_GRAPH-76D7_GRAPH-52
DD_GRAPH-6557(1F250)aCIRCLED IDEOGRAPH ADVANTAGEtCCEPT(1F260)aROUNDED SYMBOL FOR FUtLUtSHOUtXItS
HUANGXItCAI(1F300)aCYCLONEaFOGGYaCLOSED UMBRELLAaNIGHT WITH STARSaSUNRISE OVER MOUNTAINShaCITYSC
APE AT DUSKaSUNSET OVER BUILDINGSaRAINBOWaBRIDGE AT NIGHTaWATER WAVEaVOLCANOaMILKY WAYaEARTH GLO
BE EUROPE-AFRICAmAMERICASnSIA-AUSTRALIAaGLOBE WITH MERIDIANSaNEW MOON SYMBOLaWAXING CRESCENT MOO
N SYMBOLaFIRST QUARTER MOON SYMBOLaWAXING GIBBOUS MOON SYMBOLaFULL MOON SYMBOLaWANING GIBBOUS MO
ON SYMBOLaLAST QUARTER MOON SYMBOLaWANING CRESCENT MOON SYMBOLaCRESCENT MOONaNEW MOON WITH FACEa
FIRST QUARTER MOON WITH FACEaLAST QUARTER MOON WITH FACEaFULL MOON WITH FACEaSUN WITH FACEaGLOWI
NG STARaSHOOTING STARaTHERMOMETERaBLACK DROPLETaWHITE SUNj WITH SMALL CLOUDkBEHIND CLOUDw WITH R
AINaCLOUD WITH RAINlSNOWlLIGHTNINGlTORNADOaFOGaWIND BLOWING FACEaHOT DOGaTACOaBURRITOaCHESTNUTaS
EEDLINGaEVERGREEN TREEaDECIDUOUS TREEaPALM TREEaCACTUSaHOT PEPPERaTULIPaCHERRY BLOSSOMaROSEaHIBI
SCUSaSUNFLOWERaBLOSSOMaEAR OF MAIZEhRICEaHERBaFOUR LEAF CLOVERaMAPLE LEAFaFALLEN LEAFaLEAF FLUTT
ERING IN WINDaMUSHROOMaTOMATOaAUBERGINEaGRAPESaMELONaWATERMELONaTANGERINEaLEMONaBANANAaPINEAPPLE
aRED APPLEaGREEN APPLEaPEARdCHaCHERRIESaSTRAWBERRYaHAMBURGERaSLICE OF PIZZAaMEAT ON BONEaPOULTRY
 LEGaRICE CRACKERfBALLaCOOKED RICEbURRY AND RICEaSTEAMING BOWLbPAGHETTIaBREADaFRENCH FRIESaROAST
ED SWEET POTATOaDANGOaODENaSUSHIaFRIED SHRIMPbISH CAKE WITH SWIRL DESIGNaSOFT ICE CREAMbHAVED IC
EaICE CREAMaDOUGHNUTaCOOKIEbHOCOLATE BARbANDYaLOLLIPOPaCUSTARDaHONEY POTaSHORTCAKEaBENTO BOXaPOT
 OF FOODaCOOKINGaFORK AND KNIFEaTEACUP WITHOUT HANDLEaSAKE BOTTLE AND CUPaWINE GLASSaCOCKTAIL GL
ASSaTROPICAL DRINKaBEER MUGaCLINKING BEER MUGSaBABY BOTTLEaFORK AND KNIFE WITH PLATEaBOTTLE WITH
 POPPING CORKaPOPCORNaRIBBONaWRAPPED PRESENTaBIRTHDAY CAKEaJACK-O-LANTERNaCHRISTMAS TREEaFATHER 
CHRISTMASbIREWORKSi SPARKLERaBALLOONaPARTY POPPERaCONFETTI BALLaTANABATA TREEaCROSSED FLAGSaPINE
 DECORATIONaJAPANESE DOLLSaCARP STREAMERaWIND CHIMEaMOON VIEWING CEREMONYaSCHOOL SATCHELaGRADUAT
ION CAPaHEART WITH TIP ON THE LEFTaBOUQUET OF FLOWERSaMILITARY MEDALaREMINDER RIBBONaMUSICAL KEY
BOARD WITH JACKSaSTUDIO MICROPHONEaLEVEL SLIDERaCONTROL KNOBSaBEAMED ASCENDING MUSICAL NOTEShDES
CENDING MUSICAL NOTESaFILM FRAMESaADMISSION TICKETSaCAROUSEL HORSEaFERRIS WHEELaROLLER COASTERaF
ISHING POLE AND FISHaMICROPHONEbOVIE CAMERAaCINEMAaHEADPHONEaARTIST PALETTEaTOP HATaCIRCUS TENTa
TICKETaCLAPPER BOARDaPERFORMING ARTSaVIDEO GAMEaDIRECT HITaSLOT MACHINEaBILLIARDSaGAME DIEaBOWLI
NGaFLOWER PLAYING CARDSaMUSICAL NOTEcLTIPLE MUSICAL NOTESaSAXOPHONEaGUITARaMUSICAL KEYBOARDaTRUM
PETaVIOLINaMUSICAL SCOREaRUNNING SHIRT WITH SASHaTENNIS RACQUET AND BALLaSKI AND SKI BOOTaBASKET
BALL AND HOOPaCHEQUERED FLAGaSNOWBOARDERaRUNNERaSURFERbPORTS MEDALaTROPHYaHORSE RACINGaAMERICAN 
FOOTBALLaRUGBY FOOTBALLaSWIMMERaWEIGHT LIFTERaGOLFERaRACING MOTORCYCLEhCARaCRICKET BAT AND BALLa
VOLLEYBALLaFIELD HOCKEY STICK AND BALLaICE HOCKEY STICK AND PUCKaTABLE TENNIS PADDLE AND BALLaSN
OW CAPPED MOUNTAINaCAMPINGaBEACH WITH UMBRELLAbUILDING CONSTRUCTIONaHOUSE BUILDINGSaCITYSCAPEaDE
RELICT HOUSE BUILDINGaCLASSICAL BUILDINGaDESERTg ISLANDaNATIONAL PARKaSTADIUMaHOUSE BUILDINGgWIT
H GARDENaOFFICE BUILDINGaJAPANESE POST OFFICEaEUROPEAN POST OFFICEaHOSPITALaBANKaAUTOMATED TELLE
R MACHINEaHOTELaLOVE HOTELaCONVENIENCE STOREaSCHOOLaDEPARTMENT STOREaFACTORYaIZAKAYA LANTERNaJAP
ANESE CASTLEaEUROPEAN CASTLEaWHITE PENNANTaBLACK PENNANTaWAVING WHITE FLAGhBLACK FLAGaROSETTEaBL
ACK ROSETTEaLABELaBADMINTON RACQUET AND SHUTTLECOCKbOW AND ARROWaAMPHORAaEMOJI MODIFIER FITZPATR
ICK TYPE-1-2,3,4,5,6aRATaMOUSEaOXaWATER BUFFALOaCOWaTIGERaLEOPARDaRABBITaCATaDRAGONaCROCODILEaWH
ALEaSNAILdKEaHORSEaRAMaGOATaSHEEPaMONKEYaROOSTERaCHICKENaDOGaPIGaBOARaELEPHANTaOCTOPUSaSPIRAL SH
ELLaBUGaANTaHONEYBEEaLADY BEETLEaFISHaTROPICAL FISHaBLOWFISHaTURTLEaHATCHING CHICKaBABY CHICKaFR
ONT-FACING BABY CHICKaBIRDaPENGUINaKOALAaPOODLEaDROMEDARY CAMELaBACTRIAN CAMELaDOLPHINaMOUSE FAC
EaCOW FACEaTIGER FACEaRABBIT FACEaCAT FACEaDRAGON FACEaSPOUTING WHALEaHORSE FACEaMONKEY FACEaDOG
 FACEaPIG FACEaFROG FACEaHAMSTER FACEaWOLF FACEaBEAR FACEaPANDA FACEbIG NOSEbAW PRINTSaCHIPMUNKa
EYESdbARaNOSEaMOUTHaTONGUEaWHITE UP POINTING BACKHAND INDEXgDOWN POINTING BACKHAND INDEXgLEFT PO
INTING BACKHAND INDEXgRIGHT POINTING BACKHAND INDEXaFISTED HAND SIGNaWAVING HAND SIGNaOK HAND SI
GNaTHUMBS UP SIGNhDOWN SIGNaCLAPPING HANDS SIGNaOPEN HANDS SIGNaCROWNaWOMANS HATaEYEGLASSESaNECK
TIEaT-SHIRTaJEANSaDRESSaKIMONOaBIKINIaWOMANS CLOTHESaPURSEaHANDBAGaPOUCHaMANS SHOEaATHLETIC SHOE
aHIGH-HEELED SHOEaWOMANS SANDALhBOOTSaFOOTPRINTSaBUST IN SILHOUETTEeS IN SILHOUETTEbOYaGIRLaMANa
WOMANaFAMILYaMAN AND WOMAN HOLDING HANDSaTWO MEN HOLDING HANDSeWOMEN HOLDING HANDSaPOLICE OFFICE
RaWOMAN WITH BUNNY EARSaBRIDE WITH VEILaPERSON WITH BLOND HAIRaMAN WITH GUA PI MAOjTURBANaOLDER 
MANgWOMANaBABYaCONSTRUCTION WORKERaPRINCESSaJAPANESE OGREjGOBLINaGHOSTaBABY ANGELaEXTRATERRESTRI
AL ALIENaALIEN MONSTERaIMPaSKULLaINFORMATION DESK PERSONaGUARDSMANaDANCERaLIPSTICKaNAIL POLISHaF
ACE MASSAGEaHAIRCUTaBARBER POLEaSYRINGEaPILLaKISS MARKaLOVE LETTERaRINGaGEM STONEaKISSaBOUQUETaC
OUPLE WITH HEARTaWEDDINGaBEATING HEARTbROKEN HEARTaTWO HEARTSaSPARKLING HEARTaGROWING HEARTaHEAR
T WITH ARROWaBLUE HEARTaGREEN HEARTaYELLOW HEARTaPURPLE HEARTaHEART WITH RIBBONaREVOLVING HEARTS
aHEART DECORATIONaDIAMOND SHAPE WITH A DOT INSIDEaELECTRIC LIGHT BULBaANGER SYMBOLaBOMBaSLEEPING
 SYMBOLaCOLLISION SYMBOLaSPLASHING SWEAT SYMBOLaDROPLETbASH SYMBOLaPILE OF POOaFLEXED BICEPSaDIZ
ZY SYMBOLaSPEECH BALLOONaTHOUGHT BALLOONaWHITE FLOWERaHUNDRED POINTS SYMBOLaMONEY BAGaCURRENCY E
XCHANGEaHEAVY DOLLAR SIGNaCREDIT CARDaBANKNOTE WITH YEN SIGNoDOLLAR SIGNoEURO SIGNoPOUND SIGNaMO
NEY WITH WINGSaCHART WITH UPWARDS TREND AND YEN SIGNaSEATaPERSONAL COMPUTERaBRIEFCASEaMINIDISCaF
LOPPY DISKaOPTICAL DISCaDVDaFILE FOLDERaOPEN FILE FOLDERaPAGE WITH CURLfFACING UPaCALENDARaTEAR-
OFF CALENDARaCARD INDEXbHART WITH UPWARDS TRENDlDOWNWARDS TRENDaBAR CHARTaCLIPBOARDaPUSHPINaROUN
D PUSHPINaPAPERCLIPaSTRAIGHT RULERaTRIANGULAR RULERaBOOKMARK TABSaLEDGERaNOTEBOOKi WITH DECORATI
VE COVERaCLOSED BOOKaOPEN BOOKaGREEN BOOKaBLUE BOOKaORANGE BOOKaBOOKSaNAME BADGEaSCROLLaMEMOaTEL
EPHONE RECEIVERaPAGERaFAX MACHINEaSATELLITE ANTENNAaPUBLIC ADDRESS LOUDSPEAKERaCHEERING MEGAPHON
EaOUTBOX TRAYaINBOX TRAYaPACKAGEaE-MAIL SYMBOLaINCOMING ENVELOPEaENVELOPE WITH DOWNWARDS ARROW A
BOVEaCLOSED MAILBOX WITH LOWERED FLAGuRAISED FLAGaOPEN MAILBOX WITH RAISED FLAGsLOWERED FLAGaPOS
TBOXeAL HORNaNEWSPAPERaMOBILE PHONEm WITH RIGHTWARDS ARROW AT LEFTaVIBRATION MODEaMOBILE PHONE O
FFaNO MOBILE PHONESaANTENNA WITH BARSaCAMERAg WITH FLASHaVIDEO CAMERAaTELEVISIONaRADIOaVIDEOCASS
ETTEaFILM PROJECTORaPORTABLE STEREObRAYER BEADSaTWISTED RIGHTWARDS ARROWSaCLOCKWISE RIGHTWARDS A
ND LEFTWARDS OPEN CIRCLE ARROWS_IRCLE ARROWS WITH CIRCLED ONE OVERLAYkDOWNWARDS AND UPWARDS OPEN
 CIRCLE ARROWSaANTICLOCKWISE DOWNWARDS AND UPWARDS OPEN CIRCLE ARROWSaLOW BRIGHTNESS SYMBOLaHIGH
 BRIGHTNESS SYMBOLaSPEAKER WITH CANCELLATION STROKEhh WITH ONE SOUND WAVEnTHREE SOUND WAVESaBATT
ERYaELECTRIC PLUGaLEFT-POINTING MAGNIFYING GLASSaRIGHT-POINTING MAGNIFYING GLASSaLOCK WITH INK P
ENaCLOSED LOCK WITH KEYaKEYaLOCKaOPEN LOCKaBELLe WITH CANCELLATION STROKEbOOKMARKaLINK SYMBOLaRA
DIO BUTTONaBACK WITH LEFTWARDS ARROW ABOVEaEND WITH LEFTWARDS ARROW ABOVEaON WITH EXCLAMATION MA
RK WITH LEFT RIGHT ARROW ABOVEaSOON WITH RIGHTWARDS ARROW ABOVEaTOP WITH UPWARDS ARROW ABOVEaNO 
ONE UNDER EIGHTEEN SYMBOLaKEYCAP TENaINPUT SYMBOL FOR LATIN CAPITAL LETTERSxSMALL LETTERSrNUMBER
SrSYMBOLSrLATIN LETTERSaFIREaELECTRIC TORCHaWRENCHaHAMMERaNUT AND BOLTaHOCHOaPISTOLaMICROSCOPEaT
ELESCOPEaCRYSTAL BALLaSIX POINTED STAR WITH MIDDLE DOTaJAPANESE SYMBOL FOR BEGINNERaTRIDENT EMBL
EMaBLACK SQUARE BUTTONaWHITE SQUARE BUTTONaLARGE RED CIRCLEgBLUE CIRCLEgORANGE DIAMONDgBLUE DIAM
ONDaSMALL ORANGE DIAMONDgBLUE DIAMONDaUP-POINTING RED TRIANGLEaDOWN-POINTING RED TRIANGLEaUP-POI
NTING SMALL RED TRIANGLEaDOWN-POINTING SMALL RED TRIANGLEaLOWER RIGHT SHADOWED WHITE CIRCLEaUPPE
R RIGHT SHADOWED WHITE CIRCLEaCIRCLED CROSS POMMEEbROSS POMMEE WITH HALF-CIRCLE BELOWmaNOTCHED L
EFT SEMICIRCLE WITH THREE DOTSiRIGHT SEMICIRCLE WITH THREE DOTSaSYMBOL FOR MARKS CHAPTERaWHITE L
ATIN CROSSaHEAVY LATIN CROSSaCELTIC CROSSaOM SYMBOLaDOVE OF PEACEaKAABAaMOSQUEaSYNAGOGUEaMENORAH
 WITH NINE BRANCHESaBOWL OF HYGIEIAaCLOCK FACE ONE OCLOCKlTWO OCLOCKmHREE OCLOCKlFOUR OCLOCKmIVE
 OCLOCKlSIX OCLOCKmEVEN OCLOCKlEIGHT OCLOCKlNINE OCLOCKlTEN OCLOCKlELEVEN OCLOCKlTWELVE OCLOCKlO
NE-THIRTYlTWO-THIRTYmHREE-THIRTYlFOUR-THIRTYmIVE-THIRTYlSIX-THIRTYmEVEN-THIRTYlEIGHT-THIRTYlNINE
-THIRTYlTEN-THIRTYlELEVEN-THIRTYlTWELVE-THIRTYaRIGHT SPEAKERn WITH ONE SOUND WAVEtTHREE SOUND WA
VESaBULLHORNi WITH SOUND WAVESaRINGING BELLaBOOKaCANDLEaMANTELPIECE CLOCKaBLACK SKULL AND CROSSB
ONESaNO PIRACYaHOLEaMAN IN BUSINESS SUIT LEVITATINGaSLEUTH OR SPYaDARK SUNGLASSESaSPIDERg WEBaJO
YSTICKaMAN DANCINGaLEFT HAND TELEPHONE RECEIVERaTELEPHONE RECEIVER WITH PAGEaRIGHT HAND TELEPHON
E RECEIVERaWHITE TOUCHTONE TELEPHONEaBLACK TOUCHTONE TELEPHONEaTELEPHONE ON TOP OF MODEMaCLAMSHE
LL MOBILE PHONEaBACK OF ENVELOPEaSTAMPED ENVELOPEaENVELOPE WITH LIGHTNINGaFLYING ENVELOPEaPEN OV
ER STAMPED ENVELOPEaLINKED PAPERCLIPSaBLACK PUSHPINaLOWER LEFT PENCILlBALLPOINT PENlFOUNTAIN PEN
lPAINTBRUSHlCRAYONbEFT WRITING HANDaTURNED OK HAND SIGNaRAISED HAND WITH FINGERS SPLAYEDbEVERSED
 RAISED HAND WITH FINGERS SPLAYEDjTHUMBS UP SIGNqDOWN SIGNjVICTORY HANDjHAND WITH MIDDLE FINGER 
EXTENDEDbAISED HAND WITH PART BETWEEN MIDDLE AND RING FINGERSaWHITE DOWN POINTING LEFT HAND INDE
XaSIDEWAYS WHITE LEFT POINTING INDEXpRIGHT POINTING INDEXjBLACK LEFT POINTING INDEXpRIGHT POINTI
NG INDEXaBLACK LEFT POINTING BACKHAND INDEXgRIGHT POINTING BACKHAND INDEXaSIDEWAYS WHITE UP POIN
TING INDEXpDOWN POINTING INDEXjBLACK UP POINTING INDEXpDOWN POINTING INDEXaBLACK UP POINTING BAC
KHAND INDEXgDOWN POINTING BACKHAND INDEXgHEARTaDESKTOP COMPUTERaKEYBOARD AND MOUSEaTHREE NETWORK
ED COMPUTERSaPRINTERbOCKET CALCULATORaBLACK HARD SHELL FLOPPY DISKaWHITE HARD SHELL FLOPPY DISKa
SOFT SHELL FLOPPY DISKaTAPE CARTRIDGEaWIRED KEYBOARDaONE BUTTON MOUSEaTWO BUTTON MOUSEbHREE BUTT
ON MOUSEbRACKBALLaOLD PERSONAL COMPUTERaHARD DISKaSCREENaPRINTER ICONaFAX ICONaOPTICAL DISC ICON
aDOCUMENT WITH TEXTs AND PICTUREoPICTUREaFRAME WITH PICTURElTILESlAN XaBLACK FOLDERaFOLDERaOPEN 
FOLDERaCARD INDEX DIVIDERSfFILE BOXaFILE CABINETaEMPTY NOTEk PAGEnDaNOTEe PAGEhDaEMPTY DOCUMENTg
PAGEkSaDOCUMENTaPAGEeSaWASTEBASKETaSPIRAL NOTE PADhCALENDAR PADaDESKTOP WINDOWaMINIMIZEbAXIMIZEa
OVERLAPaCLOCKWISE RIGHT AND LEFT SEMICIRCLE ARROWSbANCELLATION XaINCREASE FONT SIZE SYMBOLaDECRE
ASE FONT SIZE SYMBOLaCOMPRESSIONaOLD KEYaROLLED-UP NEWSPAPERaPAGE WITH CIRCLED TEXTaSTOCK CHARTa
DAGGER KNIFEaLIPSaSPEAKING HEAD IN SILHOUETTEaTHREE RAYS ABOVElBELOWlLEFTlRIGHTaLEFT SPEECH BUBB
LEaRIGHT SPEECH BUBBLEaTWO SPEECH BUBBLESbHREE SPEECH BUBBLESaLEFT THOUGHT BUBBLEaRIGHT THOUGHT 
BUBBLEaLEFT ANGER BUBBLEaRIGHT ANGER BUBBLEaMOOD BUBBLEaLIGHTNING MOOD BUBBLEoaBALLOT BOX WITH B
ALLOThSCRIPT XhBOX WITH SCRIPT XjLD SCRIPT XjX WITH BOLD SCRIPT XaLIGHT CHECK MARKaBALLOT BOX WI
TH BOLD CHECKaWORLD MAPaMOUNT FUJIaTOKYO TOWERaSTATUE OF LIBERTYbILHOUETTE OF JAPANaMOYAIaGRINNI
NG FACEn WITH SMILING EYESaFACE WITH TEARS OF JOYaSMILING FACE WITH OPEN MOUTH% AND SMILING EYES
:COLD SWEAT:TIGHTLY-CLOSED EYESsHALOtORNSaWINKING FACEaSMILING FACE WITH SMILING EYESaFACE SAVOU
RING DELICIOUS FOODaRELIEVED FACEaSMILING FACE WITH HEART-SHAPED EYESsSUNGLASSESdRKING FACEaNEUT
RAL FACEaEXPRESSIONLESS FACEaUNAMUSED FACEaFACE WITH COLD SWEATaPENSIVE FACEaCONFUSED FACEeOUNDE
D FACEaKISSING FACEaFACE THROWING A KISSaKISSING FACE WITH SMILING EYESsCLOSED EYESaFACE WITH ST
UCK-OUT TONGUE! AND WINKING EYE+TIGHTLY-CLOSED EYESaDISAPPOINTED FACEaWORRIED FACEaANGRY FACEaPO
UTING FACEaCRYING FACEaPERSEVERING FACEaFACE WITH LOOK OF TRIUMPHaDISAPPOINTED BUT RELIEVED FACE
aFROWNING FACE WITH OPEN MOUTHaANGUISHED FACEaFEARFUL FACEaWEARY FACEaSLEEPY FACEaTIRED FACEaGRI
MACING FACEaLOUDLY CRYING FACEaFACE WITH OPEN MOUTHaHUSHED FACEaFACE WITH OPEN MOUTH AND COLD SW
EATfSCREAMING IN FEARaASTONISHED FACEaFLUSHED FACEaSLEEPING FACEaDIZZY FACEaFACE WITHOUT MOUTHj 
MEDICAL MASKaGRINNING CAT FACE WITH SMILING EYESaCAT FACE WITH TEARS OF JOYaSMILING CAT FACE WIT
H OPEN MOUTHwHEART-SHAPED EYESaCAT FACE WITH WRY SMILEaKISSING CAT FACE WITH CLOSED EYESaPOUTING
 CAT FACEaCRYING CAT FACEaWEARY CAT FACEaSLIGHTLY FROWNING FACEjSMILING FACEaUPSIDE-DOWN FACEaFA
CE WITH ROLLING EYESkNO GOOD GESTUREkOK GESTUREaPERSON BOWING DEEPLYaSEE-NO-EVIL MONKEYaHEAR-NO-
EVIL MONKEYaSPEAK-NO-EVIL MONKEYaHAPPY PERSON RAISING ONE HANDaPERSON RAISING BOTH HANDS IN CELE
BRATIONhFROWNINGhWITH POUTING FACEmFOLDED HANDSaNORTH WEST POINTING LEAFaSOUTH WEST POINTING LEA
FaNORTH EAST POINTING LEAFaSOUTH EAST POINTING LEAFaTURNED NORTH WEST POINTING LEAFhSOUTH WEST P
OINTING LEAFhNORTH EAST POINTING LEAFhSOUTH EAST POINTING LEAFaNORTH WEST POINTING VINE LEAFaSOU
TH WEST POINTING VINE LEAFaNORTH EAST POINTING VINE LEAFaSOUTH EAST POINTING VINE LEAFaHEAVY NOR
TH WEST POINTING VINE LEAFgSOUTH WEST POINTING VINE LEAFgNORTH EAST POINTING VINE LEAFgSOUTH EAS
T POINTING VINE LEAFaNORTH WEST POINTING BUDaSOUTH WEST POINTING BUDaNORTH EAST POINTING BUDaSOU
TH EAST POINTING BUDaHEAVY NORTH WEST POINTING BUDgSOUTH WEST POINTING BUDgNORTH EAST POINTING B
UDgSOUTH EAST POINTING BUDbOLLOW QUILT SQUARE ORNAMENT% IN BLACK SQUAREaSOLID QUILT SQUARE ORNAM
ENT$ IN BLACK SQUAREaLEFTWARDS ROCKETaUPWARDS ROCKETaRIGHTWARDS ROCKETaDOWNWARDS ROCKETaSCRIPT L
IGATURE ET ORNAMENTaHEAVY SCRIPT LIGATURE ET ORNAMENTaLIGATURE OPEN ET ORNAMENTaHEAVY LIGATURE O
PEN ET ORNAMENTgAMPERSAND ORNAMENTaSWASH AMPERSAND ORNAMENTbANS-SERIF HEAVY DOUBLE TURNED COMMA 
QUOTATION MARK ORNAMENTyCOMMA QUOTATION MARK ORNAMENTrLOW DOUBLE COMMA QUOTATION MARK ORNAMENTaH
EAVY INTERROBANG ORNAMENTaSANS-SERIF INTERROBANG ORNAMENTaHEAVY SANS-SERIF INTERROBANG ORNAMENTa
VERY HEAVY SOLIDUSlREVERSE SOLIDUSaCHECKER BOARDaREVERSE CHECKER BOARDbOCKETaHELICOPTERaSTEAM LO
COMOTIVEaRAILWAY CARaHIGH-SPEED TRAINq WITH BULLET NOSEaTRAINaMETROaLIGHT RAILaSTATIONaTRAMe CAR
aBUSaONCOMING BUSaTROLLEYBUSaBUS STOPaMINIBUSaAMBULANCEaFIRE ENGINEaPOLICE CARaONCOMING POLICE C
ARaTAXIaONCOMING TAXIaAUTOMOBILEaONCOMING AUTOMOBILEaRECREATIONAL VEHICLEaDELIVERY TRUCKaARTICUL
ATED LORRYaTRACTORaMONORAILcUNTAIN RAILWAYaSUSPENSION RAILWAYaMOUNTAIN CABLEWAYaAERIAL TRAMWAYaS
HIPaROWBOATaSPEEDBOATaHORIZONTAL TRAFFIC LIGHTaVERTICAL TRAFFIC LIGHTaCONSTRUCTION SIGNaPOLICE C
ARS REVOLVING LIGHTaTRIANGULAR FLAG ON POSTaDOORaNO ENTRY SIGNaSMOKING SYMBOLaNO SMOKING SYMBOLa
PUT LITTER IN ITS PLACE SYMBOLaDO NOT LITTER SYMBOLaPOTABLE WATER SYMBOLaNON-POTABLE WATER SYMBO
LaBICYCLEaNO BICYCLESaBICYCLISTaMOUNTAIN BICYCLISTaPEDESTRIANaNO PEDESTRIANSaCHILDREN CROSSINGaM
ENS SYMBOLaWOMENS SYMBOLaRESTROOMaBABY SYMBOLaTOILETaWATER CLOSETaSHOWERaBATHeTUBaPASSPORT CONTR
OLaCUSTOMSaBAGGAGE CLAIMaLEFT LUGGAGEaTRIANGLE WITH ROUNDED CORNERSaPROHIBITED SIGNaCIRCLED INFO
RMATION SOURCEaBOYS SYMBOLaGIRLS SYMBOLaCOUCH AND LAMPaSLEEPING ACCOMMODATIONbHOPPING BAGSaBELLH
OP BELLcDaPLACE OF WORSHIPaOCTAGONAL SIGNaSHOPPING TROLLEYbTUPAaPAGODAaHINDU TEMPLEbUTaELEVATOR(
1F6DD)aPLAYGROUND SLIDEaWHEELaRING BUOYaHAMMER AND WRENCHaSHIELDaOIL DRUMaMOTORWAYaRAILWAY TRACK
aMOTOR BOATaUP-POINTING MILITARY AIRPLANEmAIRPLANEmSMALL AIRPLANEaSMALL AIRPLANEaNORTHEAST-POINT
ING AIRPLANEaAIRPLANE DEPARTUREjARRIVING(1F6F0)aSATELLITEaONCOMING FIRE ENGINEaDIESEL LOCOMOTIVE
aPASSENGER SHIPaSCOOTERaMOTOR SCOOTERaCANOEaSLEDaFLYING SAUCERaSKATEBOARDaAUTO RICKSHAWaPICKUP T
RUCKaROLLER SKATE(1F700)aALCHEMICAL SYMBOL FOR QUINTESSENCEwAIRwFIREwEARTHwWATERwAQUAFORTIS! REG
IA,-2$VITAE,-2wVINEGAR&-2*3wSULFURwPHILOSOPHERS SULFURwBLACK SULFURwMERCURY SUBLIMATE@-2^3wCINNA
BARwSALTwNITREwVITRIOL&-2wROCK SALT+-2wGOLDwSILVERwIRON ORE*-2wCROCUS OF IRONwREGULUS OF IRONwCO
PPER OREwIRON-COPPER OREwSUBLIMATE OF COPPERwCROCUS OF COPPER?-2xOPPER ANTIMONIATEwSALT OF COPPE
R ANTIMONIATExUBLIMATE OF SALT OF COPPERwVERDIGRISwTIN OREwLEAD OREwANTIMONY OREwSUBLIMATE OF AN
TIMONYxALT OF ANTIMONYxUBLIMATE OF SALT OF ANTIMONYwVINEGAR OF ANTIMONYwREGULUS OF ANTIMONY_-2&&
-2*3*4wALKALI%-2wMARCASITEwSAL-AMMONIACwARSENICwREALGAR&-2wAURIPIGMENTwBISMUTH OREwTARTAR%-2wQUI
CK LIMEwBORAX$-2%3wALUMwOILwSPIRITwTINCTUREwGUMwWAXwPOWDERwCALXwTUTTYwCAPUT MORTUUMwSCEPTER OF J
OVEwCADUCEUSwTRIDENTwSTARRED TRIDENTwLODESTONEwSOAPwURINEwHORSE DUNGwASHESwPOT ASHESwBRICKwPOWDE
RED BRICKwAMALGAMwSTRATUM SUPER STRATUM_UM-2xUBLIMATIONwPRECIPITATEwDISTILLzSOLVE*-2wPURIFYyTREF
ACTIONwCRUCIBLE*-2+3+4+5wALEMBICwBATH OF MARY*VAPOURSwRETORTwHOURwNIGHTwDAY-NIGHTwMONTHwHALF DRA
M$OUNCE(1F780)aBLACK LEFT-POINTING ISOSCELES RIGHT TRIANGLEgUP-POINTING ISOSCELES RIGHT TRIANGLE
gRIGHT-POINTING ISOSCELES RIGHT TRIANGLEgDOWN-POINTING ISOSCELES RIGHT TRIANGLEgSLIGHTLY SMALL C
IRCLEaMEDIUM BOLD WHITE CIRCLEaBOLD WHITE CIRCLEaHEAVY WHITE CIRCLEaVERY HEAVY WHITE CIRCLEaEXTR
EMELY HEAVY WHITE CIRCLEaWHITE CIRCLE CONTAINING BLACK SMALL CIRCLEaROUND TARGETaBLACK TINY SQUA
REgSLIGHTLY SMALL SQUAREaLIGHT WHITE SQUAREaMEDIUM WHITE SQUAREaBOLD WHITE SQUAREaHEAVY WHITE SQ
UAREaVERY HEAVY WHITE SQUAREaEXTREMELY HEAVY WHITE SQUAREaWHITE SQUARE CONTAINING BLACK VERY SMA
LL SQUARE*MEDIUM SQUAREaSQUARE TARGETaBLACK TINY DIAMONDgVERY SMALL DIAMONDgMEDIUM SMALL DIAMOND
aWHITE DIAMOND CONTAINING BLACK VERY SMALL DIAMOND+MEDIUM DIAMONDaDIAMOND TARGETaBLACK TINY LOZE
NGEgVERY SMALL LOZENGEgMEDIUM SMALL LOZENGEaWHITE LOZENGE CONTAINING BLACK SMALL LOZENGEaTHIN GR
EEK CROSSaLIGHT GREEK CROSSaMEDIUM GREEK CROSSaBOLD GREEK CROSSaVERY BOLD GREEK CROSSfHEAVY GREE
K CROSSaEXTREMELY HEAVY GREEK CROSSaTHIN SALTIREaLIGHT SALTIREaMEDIUM SALTIREaBOLD SALTIREaHEAVY
 SALTIREaVERY HEAVY SALTIREaEXTREMELY HEAVY SALTIREaLIGHT FIVE SPOKED ASTERISKaMEDIUM FIVE SPOKE
D ASTERISKaBOLD FIVE SPOKED ASTERISKaHEAVY FIVE SPOKED ASTERISKaVERY HEAVY FIVE SPOKED ASTERISKa
EXTREMELY HEAVY FIVE SPOKED ASTERISKaLIGHT SIX SPOKED ASTERISKaMEDIUM SIX SPOKED ASTERISKaBOLD S
IX SPOKED ASTERISKaHEAVY SIX SPOKED ASTERISKaVERY HEAVY SIX SPOKED ASTERISKaEXTREMELY HEAVY SIX 
SPOKED ASTERISKaLIGHT EIGHT SPOKED ASTERISKaMEDIUM EIGHT SPOKED ASTERISKaBOLD EIGHT SPOKED ASTER
ISKaHEAVY EIGHT SPOKED ASTERISKaVERY HEAVY EIGHT SPOKED ASTERISKaLIGHT THREE POINTED BLACK STARa
MEDIUM THREE POINTED BLACK STARaTHREE POINTED BLACK STARaMEDIUM THREE POINTED PINWHEEL STARaLIGH
T FOUR POINTED BLACK STARaMEDIUM FOUR POINTED BLACK STARaFOUR POINTED BLACK STARaMEDIUM FOUR POI
NTED PINWHEEL STARaREVERSE LIGHT FOUR POINTED PINWHEEL STARaLIGHT FIVE POINTED BLACK STARaHEAVY 
FIVE POINTED BLACK STARaMEDIUM SIX POINTED BLACK STARaHEAVY SIX POINTED BLACK STARaSIX POINTED P
INWHEEL STARaMEDIUM EIGHT POINTED BLACK STARaHEAVY EIGHT POINTED BLACK STARaVERY HEAVY EIGHT POI
NTED BLACK STARaHEAVY EIGHT POINTED PINWHEEL STARaLIGHT TWELVE POINTED BLACK STARaHEAVY TWELVE P
OINTED BLACK STARvPINWHEEL STARaCIRCLED TRIANGLEaNEGATIVE CIRCLED TRIANGLEaCIRCLED SQUAREaNEGATI
VE CIRCLED SQUARE(1F7E0)aLARGE ORANGE CIRCLEgYELLOW CIRCLEgGREEN CIRCLEgPURPLE CIRCLEgBROWN CIRC
LEgRED SQUAREgBLUE SQUAREgORANGE SQUAREgYELLOW SQUAREgGREEN SQUAREgPURPLE SQUAREgBROWN SQUARE(1F
7F0)aHEAVY EQUALS SIGN(1F800)aLEFTWARDS ARROW WITH SMALL TRIANGLE ARROWHEADaUPWARDS ARROW WITH S
MALL TRIANGLE ARROWHEADaRIGHTWARDS ARROW WITH SMALL TRIANGLE ARROWHEADaDOWNWARDS ARROW WITH SMAL
L TRIANGLE ARROWHEADaLEFTWARDS ARROW WITH MEDIUM TRIANGLE ARROWHEADaUPWARDS ARROW WITH MEDIUM TR
IANGLE ARROWHEADaRIGHTWARDS ARROW WITH MEDIUM TRIANGLE ARROWHEADaDOWNWARDS ARROW WITH MEDIUM TRI
ANGLE ARROWHEADaLEFTWARDS ARROW WITH LARGE TRIANGLE ARROWHEADaUPWARDS ARROW WITH LARGE TRIANGLE 
ARROWHEADaRIGHTWARDS ARROW WITH LARGE TRIANGLE ARROWHEADaDOWNWARDS ARROW WITH LARGE TRIANGLE ARR
OWHEAD(1F810)aLEFTWARDS ARROW WITH SMALL EQUILATERAL ARROWHEADaUPWARDS ARROW WITH SMALL EQUILATE
RAL ARROWHEADaRIGHTWARDS ARROW WITH SMALL EQUILATERAL ARROWHEADaDOWNWARDS ARROW WITH SMALL EQUIL
ATERAL ARROWHEADaLEFTWARDS ARROW WITH EQUILATERAL ARROWHEADaUPWARDS ARROW WITH EQUILATERAL ARROW
HEADaRIGHTWARDS ARROW WITH EQUILATERAL ARROWHEADaDOWNWARDS ARROW WITH EQUILATERAL ARROWHEADaHEAV
Y LEFTWARDS ARROW WITH EQUILATERAL ARROWHEADgUPWARDS ARROW WITH EQUILATERAL ARROWHEADgRIGHTWARDS
 ARROW WITH EQUILATERAL ARROWHEADgDOWNWARDS ARROW WITH EQUILATERAL ARROWHEADgLEFTWARDS ARROW WIT
H LARGE EQUILATERAL ARROWHEADgUPWARDS ARROW WITH LARGE EQUILATERAL ARROWHEADgRIGHTWARDS ARROW WI
TH LARGE EQUILATERAL ARROWHEADgDOWNWARDS ARROW WITH LARGE EQUILATERAL ARROWHEADaLEFTWARDS TRIANG
LE-HEADED ARROW WITH NARROW SHAFTaUPWARDS TRIANGLE-HEADED ARROW WITH NARROW SHAFTaRIGHTWARDS TRI
ANGLE-HEADED ARROW WITH NARROW SHAFTaDOWNWARDS TRIANGLE-HEADED ARROW WITH NARROW SHAFTaLEFTWARDS
 TRIANGLE-HEADED ARROW WITH MEDIUM SHAFTaUPWARDS TRIANGLE-HEADED ARROW WITH MEDIUM SHAFTaRIGHTWA
RDS TRIANGLE-HEADED ARROW WITH MEDIUM SHAFTaDOWNWARDS TRIANGLE-HEADED ARROW WITH MEDIUM SHAFTaLE
FTWARDS TRIANGLE-HEADED ARROW WITH BOLD SHAFTaUPWARDS TRIANGLE-HEADED ARROW WITH BOLD SHAFTaRIGH
TWARDS TRIANGLE-HEADED ARROW WITH BOLD SHAFTaDOWNWARDS TRIANGLE-HEADED ARROW WITH BOLD SHAFTaLEF
TWARDS TRIANGLE-HEADED ARROW WITH HEAVY SHAFTaUPWARDS TRIANGLE-HEADED ARROW WITH HEAVY SHAFTaRIG
HTWARDS TRIANGLE-HEADED ARROW WITH HEAVY SHAFTaDOWNWARDS TRIANGLE-HEADED ARROW WITH HEAVY SHAFTa
LEFTWARDS TRIANGLE-HEADED ARROW WITH VERY HEAVY SHAFTaUPWARDS TRIANGLE-HEADED ARROW WITH VERY HE
AVY SHAFTaRIGHTWARDS TRIANGLE-HEADED ARROW WITH VERY HEAVY SHAFTaDOWNWARDS TRIANGLE-HEADED ARROW
 WITH VERY HEAVY SHAFTaLEFTWARDS FINGER-POST ARROWaUPWARDS FINGER-POST ARROWaRIGHTWARDS FINGER-P
OST ARROWaDOWNWARDS FINGER-POST ARROWaLEFTWARDS SQUARED ARROWaUPWARDS SQUARED ARROWaRIGHTWARDS S
QUARED ARROWaDOWNWARDS SQUARED ARROWaLEFTWARDS COMPRESSED ARROWaUPWARDS COMPRESSED ARROWaRIGHTWA
RDS COMPRESSED ARROWaDOWNWARDS COMPRESSED ARROWaLEFTWARDS HEAVY COMPRESSED ARROWaUPWARDS HEAVY C
OMPRESSED ARROWaRIGHTWARDS HEAVY COMPRESSED ARROWaDOWNWARDS HEAVY COMPRESSED ARROWaLEFTWARDS HEA
VY ARROWaUPWARDS HEAVY ARROWaRIGHTWARDS HEAVY ARROWaDOWNWARDS HEAVY ARROW(1F850)aLEFTWARDS SANS-
SERIF ARROWaUPWARDS SANS-SERIF ARROWaRIGHTWARDS SANS-SERIF ARROWaDOWNWARDS SANS-SERIF ARROWaNORT
H WEST SANS-SERIF ARROWgEAST SANS-SERIF ARROWaSOUTH EAST SANS-SERIF ARROWgWEST SANS-SERIF ARROWa
LEFT RIGHT SANS-SERIF ARROWaUP DOWN SANS-SERIF ARROW(1F860)aWIDE-HEADED LEFTWARDS LIGHT BARB ARR
OWmUPWARDS LIGHT BARB ARROWmRIGHTWARDS LIGHT BARB ARROWmDOWNWARDS LIGHT BARB ARROWmNORTH WEST LI
GHT BARB ARROWsEAST LIGHT BARB ARROWmSOUTH EAST LIGHT BARB ARROWsWEST LIGHT BARB ARROWmLEFTWARDS
 BARB ARROWmUPWARDS BARB ARROWmRIGHTWARDS BARB ARROWmDOWNWARDS BARB ARROWmNORTH WEST BARB ARROWs
EAST BARB ARROWmSOUTH EAST BARB ARROWsWEST BARB ARROWmLEFTWARDS MEDIUM BARB ARROWmUPWARDS MEDIUM
 BARB ARROWmRIGHTWARDS MEDIUM BARB ARROWmDOWNWARDS MEDIUM BARB ARROWmNORTH WEST MEDIUM BARB ARRO
WsEAST MEDIUM BARB ARROWmSOUTH EAST MEDIUM BARB ARROWsWEST MEDIUM BARB ARROWmLEFTWARDS HEAVY BAR
B ARROWmUPWARDS HEAVY BARB ARROWmRIGHTWARDS HEAVY BARB ARROWmDOWNWARDS HEAVY BARB ARROWmNORTH WE
ST HEAVY BARB ARROWsEAST HEAVY BARB ARROWmSOUTH EAST HEAVY BARB ARROWsWEST HEAVY BARB ARROWmLEFT
WARDS VERY HEAVY BARB ARROWmUPWARDS VERY HEAVY BARB ARROWmRIGHTWARDS VERY HEAVY BARB ARROWmDOWNW
ARDS VERY HEAVY BARB ARROWmNORTH WEST VERY HEAVY BARB ARROWsEAST VERY HEAVY BARB ARROWmSOUTH EAS
T VERY HEAVY BARB ARROWsWEST VERY HEAVY BARB ARROW(1F890)aLEFTWARDS TRIANGLE ARROWHEADaUPWARDS T
RIANGLE ARROWHEADaRIGHTWARDS TRIANGLE ARROWHEADaDOWNWARDS TRIANGLE ARROWHEADaLEFTWARDS WHITE ARR
OW WITHIN TRIANGLE ARROWHEADaUPWARDS WHITE ARROW WITHIN TRIANGLE ARROWHEADaRIGHTWARDS WHITE ARRO
W WITHIN TRIANGLE ARROWHEADaDOWNWARDS WHITE ARROW WITHIN TRIANGLE ARROWHEADaLEFTWARDS ARROW WITH
 NOTCHED TAILaUPWARDS ARROW WITH NOTCHED TAILaRIGHTWARDS ARROW WITH NOTCHED TAILaDOWNWARDS ARROW
 WITH NOTCHED TAILaHEAVY ARROW SHAFT WIDTH ONEyTWO THIRDSyONE HALF%THIRDaLEFTWARDS BOTTOM-SHADED
 WHITE ARROWaRIGHTWARDS BOTTOM SHADED WHITE ARROWaLEFTWARDS TOP SHADED WHITE ARROWaRIGHTWARDS TO
P SHADED WHITE ARROWaLEFTWARDS LEFT-SHADED WHITE ARROWaRIGHTWARDS RIGHT-SHADED WHITE ARROWaLEFTW
ARDS RIGHT-SHADED WHITE ARROWaRIGHTWARDS LEFT-SHADED WHITE ARROWaLEFTWARDS BACK-TILTED SHADOWED 
WHITE ARROWaRIGHTWARDS BACK-TILTED SHADOWED WHITE ARROWaLEFTWARDS FRONT-TILTED SHADOWED WHITE AR
ROWaRIGHTWARDS FRONT-TILTED SHADOWED WHITE ARROWaWHITE ARROW SHAFT WIDTH ONEyTWO THIRDS(1F8B0)aA
RROW POINTING UPWARDS THEN NORTH WESTpRIGHTWARDS THEN CURVING SOUTH WEST(1F900)aCIRCLED CROSS FO
RMEE WITH FOUR DOTS!TWO DOTSuaLEFT HALF CIRCLE WITH FOUR DOTSwTHREE DOTSxWO DOTSwDOTqaDOWNWARD F
ACING HOOKqNOTCHED HOOKqHOOK WITH DOTqNOTCHED HOOK WITH DOTaPINCHED FINGERSaWHITE HEARTaBROWN HE
ARTaPINCHING HANDaZIPPER-MOUTH FACEaMONEY-MOUTH FACEaFACE WITH THERMOMETERaNERD FACEaTHINKING FA
CEaFACE WITH HEAD-BANDAGEaROBOT FACEaHUGGING FACEaSIGN OF THE HORNSaCALL ME HANDaRAISED BACK OF 
HANDaLEFT-FACING FISTaRIGHT-FACING FISTaHANDSHAKEe WITH INDEX AND MIDDLE FINGERS CROSSEDaI LOVE 
YOU HAND SIGNaFACE WITH COWBOY HATaCLOWN FACEaNAUSEATED FACEaROLLING ON THE FLOOR LAUGHINGaDROOL
ING FACEaLYING FACEaFACE PALMaSNEEZING FACEaFACE WITH ONE EYEBROW RAISEDaGRINNING FACE WITH STAR
 EYEStONE LARGE AND ONE SMALL EYEaFACE WITH FINGER COVERING CLOSED LIPSaSERIOUS FACE WITH SYMBOL
S COVERING MOUTHbMILING FACE WITH SMILING EYES AND HAND COVERING MOUTHaFACE WITH OPEN MOUTH VOMI
TINGaSHOCKED FACE WITH EXPLODING HEADaPREGNANT WOMANaBREAST-FEEDINGaPALMS UP TOGETHERaSELFIEaPRI
NCEaMAN IN TUXEDObOTHER CHRISTMASaSHRUGaPERSON DOING CARTWHEELaJUGGLINGaFENCERaMODERN PENTATHLON
aWRESTLERSbATER POLOaHANDBALLaDIVING MASKaWILTED FLOWERaDRUM WITH DRUMSTICKSaCLINKING GLASSESaTU
MBLER GLASSaSPOONaGOAL NETaRIFLEaFIRST PLACE MEDALaSECOND PLACE MEDALaTHIRD PLACE MEDALaBOXING G
LOVEaMARTIAL ARTS UNIFORMaCURLING STONEaLACROSSE STICK AND BALLaSOFTBALLaFLYING DISCaCROISSANTaA
VOCADOaCUCUMBERaBACONaPOTATOaCARROTaBAGUETTE BREADaGREEN SALADaSHALLOW PAN OF FOODbTUFFED FLATBR
EADaEGGaGLASS OF MILKaPEANUTSaKIWIFRUITaPANCAKESaDUMPLINGaFORTUNE COOKIEaTAKEOUT BOXaCHOPSTICKSa
BOWL WITH SPOONaCUP WITH STRAWbOCONUTaBROCCOLIaPIEbRETZELaCUT OF MEATaSANDWICHaCANNED FOODaLEAFY
 GREENaMANGObOON CAKEaBAGELaSMILING FACE WITH SMILING EYES AND THREE HEARTSaYAWNING FACEaSMILING
 FACE WITH TEARaFACE WITH PARTY HORN AND PARTY HATkUNEVEN EYES AND WAVY MOUTHaOVERHEATED FACEaFR
EEZING FACEaNINJAaDISGUISED FACEaFACE HOLDING BACK TEARSfWITH PLEADING EYESaSARIaLAB COATaGOGGLE
SaHIKING BOOTaFLAT SHOEaCRABaLION FACEaSCORPIONaTURKEYaUNICORN FACEaEAGLEaDUCKaBATaSHARKaOWLaFOX
 FACEaBUTTERFLYaDEERaGORILLAaLIZARDaRHINOCEROSaSHRIMPbQUIDaGIRAFFE FACEaZEBRA FACEaHEDGEHOGaSAUR
OPODaT-REXaCRICKETaKANGAROOaLLAMAaPEACOCKaHIPPOPOTAMUSaPARROTaRACCOONaLOBSTERaMOSQUITObICROBEaBA
DGERaSWANaMAMMOTHaDODOaSLOTHaOTTERbRANGUTANaSKUNKaFLAMINGOaOYSTERaBEAVERbISONaSEALaGUIDE DOGaPRO
BING CANEaEMOJI COMPONENT RED HAIRqCURLY HAIRqBALDqWHITE HAIRaBONEaLEGaFOOTaTOOTHaSUPERHEROfVILL
AINbAFETY VESTaEAR WITH HEARING AIDaMOTORIZED WHEELCHAIRbANUAL WHEELCHAIRbECHANICAL ARMlLEGaCHEE
SE WEDGEbUPCAKEaSALT SHAKERaBEVERAGE BOXaGARLICaONIONaFALAFELaWAFFLEaBUTTERaMATE DRINKaICE CUBEa
BUBBLE TEAaTROLLaSTANDING PERSONaKNEELING PERSONaDEAF PERSONaFACE WITH MONOCLEaADULTaCHILDaOLDER
 ADULTaBEARDED PERSONaPERSON WITH HEADSCARFhIN STEAMY ROOMhCLIMBINGhIN LOTUS POSITIONaMAGEaFAIRY
aVAMPIREaMERPERSONaELFaGENIEaZOMBIEaBRAINaORANGE HEARTaBILLED CAPaSCARFaGLOVESaCOATaSOCKSaRED GI
FT ENVELOPEaFIRECRACKERaJIGSAW PUZZLE PIECEaTEST TUBEaPETRI DISHaDNA DOUBLE HELIXaCOMPASSaABACUS
aFIRE EXTINGUISHERaTOOLBOXaBRICKaMAGNETaLUGGAGEbOTION BOTTLEaSPOOL OF THREADaBALL OF YARNaSAFETY
 PINaTEDDY BEARaBROOMbASKETaROLL OF PAPERaBAR OF SOAPaSPONGEaRECEIPTaNAZAR AMULETbEUTRAL CHESS K
INGoQUEENoROOKoBISHOPoKNIGHToPAWNaWHITE CHESS KNIGHT ROTATED FORTY-FIVE DEGREESaBLACK CHESS KNIG
HT ROTATED FORTY-FIVE DEGREESaNEUTRAL CHESS KNIGHT ROTATED FORTY-FIVE DEGREESaWHITE CHESS KING R
OTATED NINETY DEGREESmQUEEN ROTATED NINETY DEGREESmROOK ROTATED NINETY DEGREESmBISHOP ROTATED NI
NETY DEGREESmKNIGHT ROTATED NINETY DEGREESmPAWN ROTATED NINETY DEGREESaBLACK CHESS KING ROTATED 
NINETY DEGREESmQUEEN ROTATED NINETY DEGREESmROOK ROTATED NINETY DEGREESmBISHOP ROTATED NINETY DE
GREESmKNIGHT ROTATED NINETY DEGREESmPAWN ROTATED NINETY DEGREESaNEUTRAL CHESS KING ROTATED NINET
Y DEGREESoQUEEN ROTATED NINETY DEGREESoROOK ROTATED NINETY DEGREESoBISHOP ROTATED NINETY DEGREES
oKNIGHT ROTATED NINETY DEGREESoPAWN ROTATED NINETY DEGREESaWHITE CHESS KNIGHT ROTATED ONE HUNDRE
D THIRTY-FIVE DEGREESaBLACK CHESS KNIGHT ROTATED ONE HUNDRED THIRTY-FIVE DEGREESaNEUTRAL CHESS K
NIGHT ROTATED ONE HUNDRED THIRTY-FIVE DEGREESaWHITE CHESS TURNED KINGtQUEENtROOKtBISHOPtKNIGHTtP
AWNaBLACK CHESS TURNED KINGtQUEENtROOKtBISHOPtKNIGHTtPAWNaNEUTRAL CHESS TURNED KINGvQUEENvROOKvB
ISHOPvKNIGHTvPAWNaWHITE CHESS KNIGHT ROTATED TWO HUNDRED TWENTY-FIVE DEGREESaBLACK CHESS KNIGHT 
ROTATED TWO HUNDRED TWENTY-FIVE DEGREESaNEUTRAL CHESS KNIGHT ROTATED TWO HUNDRED TWENTY-FIVE DEG
REESaWHITE CHESS KING ROTATED TWO HUNDRED SEVENTY DEGREESmQUEEN ROTATED TWO HUNDRED SEVENTY DEGR
EESmROOK ROTATED TWO HUNDRED SEVENTY DEGREESmBISHOP ROTATED TWO HUNDRED SEVENTY DEGREESmKNIGHT R
OTATED TWO HUNDRED SEVENTY DEGREESmPAWN ROTATED TWO HUNDRED SEVENTY DEGREESaBLACK CHESS KING ROT
ATED TWO HUNDRED SEVENTY DEGREESmQUEEN ROTATED TWO HUNDRED SEVENTY DEGREESmROOK ROTATED TWO HUND
RED SEVENTY DEGREESmBISHOP ROTATED TWO HUNDRED SEVENTY DEGREESmKNIGHT ROTATED TWO HUNDRED SEVENT
Y DEGREESmPAWN ROTATED TWO HUNDRED SEVENTY DEGREESaNEUTRAL CHESS KING ROTATED TWO HUNDRED SEVENT
Y DEGREESoQUEEN ROTATED TWO HUNDRED SEVENTY DEGREESoROOK ROTATED TWO HUNDRED SEVENTY DEGREESoBIS
HOP ROTATED TWO HUNDRED SEVENTY DEGREESoKNIGHT ROTATED TWO HUNDRED SEVENTY DEGREESoPAWN ROTATED 
TWO HUNDRED SEVENTY DEGREESaWHITE CHESS KNIGHT ROTATED THREE HUNDRED FIFTEEN DEGREESaBLACK CHESS
 KNIGHT ROTATED THREE HUNDRED FIFTEEN DEGREESaNEUTRAL CHESS KNIGHT ROTATED THREE HUNDRED FIFTEEN
 DEGREESaWHITE CHESS EQUIHOPPERaBLACK CHESS EQUIHOPPERaNEUTRAL CHESS EQUIHOPPERaWHITE CHESS EQUI
HOPPER ROTATED NINETY DEGREESaBLACK CHESS EQUIHOPPER ROTATED NINETY DEGREESaNEUTRAL CHESS EQUIHO
PPER ROTATED NINETY DEGREESaWHITE CHESS KNIGHT-QUEENtROOKtBISHOPaBLACK CHESS KNIGHT-QUEENtROOKtB
ISHOP(1FA60)aXIANGQI RED GENERALmMANDARINmELEPHANTmHORSEmCHARIOTnANNONmSOLDIERiBLACK GENERALoMAN
DARINoELEPHANToHORSEoCHARIOTpANNONoSOLDIER(1FA70)aBALLET SHOESaONE-PIECE SWIMSUITaBRIEFSaSHORTSa
THONG SANDAL(1FA78)aDROP OF BLOODaADHESIVE BANDAGEaSTETHOSCOPEaX-RAYaCRUTCH(1FA80)aYO-YOaKITEaPA
RACHUTEaBOOMERANGaMAGIC WANDaPINATAaNESTING DOLLS(1FA90)aRINGED PLANETaCHAIRaRAZORaAXEaDIYA LAMP
aBANJOaMILITARY HELMETaACCORDIONaLONG DRUMaCOINbARPENTRY SAWaSCREWDRIVERaLADDERaHOOKaMIRRORaWIND
OWaPLUNGERaSEWING NEEDLEaKNOTaBUCKETaMOUSE TRAPaTOOTHBRUSHaHEADSTONEaPLACARDaROCKaMIRROR BALLaID
ENTIFICATION CARDaLOW BATTERYaHAMSA(1FAB0)aFLYaWORMaBEETLEaCOCKROACHaPOTTED PLANTaWOODaFEATHERaL
OTUSaCORALaEMPTY NESTaNEST WITH EGGS(1FAC0)aANATOMICAL HEARTaLUNGSaPEOPLE HUGGINGbREGNANT MANjPE
RSONbERSON WITH CROWN(1FAD0)aBLUEBERRIESbELL PEPPERaOLIVEaFLATBREADaTAMALEaFONDUEaTEAPOTaPOURING
 LIQUIDaBEANSaJAR(1FAE0)aMELTING FACEaSALUTING FACEaFACE WITH OPEN EYES AND HAND OVER MOUTHkPEEK
ING EYEkDIAGONAL MOUTHaDOTTED LINE FACEaBITING LIPbUBBLES(1FAF0)aHAND WITH INDEX FINGER AND THUM
B CROSSEDaRIGHTWARDS HANDaLEFTWARDS HANDaPALM DOWN HANDfUP HANDaINDEX POINTING AT THE VIEWERaHEA
RT HANDS(1FB00)aBLOCK SEXTANT-1o2o12o3o13o23o123o4o14o24o124o34o134o234o1234o5o15o25o125o35o235o
1235o45o145o245o1245o345o1345o2345o12345o6o16o26o126o36o136o236o1236o46o146p246o346o1346o2346o12
346o56o156o256o1256o356o1356o2356o12356o456o1456o2456o12456o3456o13456o23456aLOWER LEFT BLOCK DI
AGONAL LOWER MIDDLE LEFT TO LOWER CENTRE_FT TO LOWER RIGHT!UPPER MIDDLE LEFT TO LOWER CENTRE_FT 
TO LOWER RIGHT,LEFT TO LOWER CENTREgRIGHT BLOCK DIAGONAL UPPER MIDDLE LEFT TO UPPER CENTRE_EFT T
O UPPER RIGHT$LOWER MIDDLE LEFT TO UPPER CENTRE_EFT TO UPPER RIGHT:LEFT TO UPPER CENTRE:MIDDLE L
EFT TO UPPER MIDDLE RIGHT:CENTRE TO LOWER MIDDLE RIGHT:LEFT TO LOWER MIDDLE RIGHT:CENTRE TO UPPE
R MIDDLE RIGHT:LEFT TO UPPER MIDDLE RIGHT:CENTRE TO UPPER RIGHTgLEFT BLOCK DIAGONAL UPPER CENTRE
 TO UPPER MIDDLE RIGHT,LEFT TO UPPER MIDDLE RIGHT,CENTRE TO LOWER MIDDLE RIGHT,LEFT TO LOWER MID
DLE RIGHT,CENTRE TO LOWER RIGHT,MIDDLE LEFT TO LOWER MIDDLE RIGHTaUPPER RIGHT BLOCK DIAGONAL LOW
ER MIDDLE LEFT TO LOWER CENTRE_EFT TO LOWER RIGHT$UPPER MIDDLE LEFT TO LOWER CENTRE_EFT TO LOWER
 RIGHT:LEFT TO LOWER CENTREgLEFT BLOCK DIAGONAL UPPER MIDDLE LEFT TO UPPER CENTRE_FT TO UPPER RI
GHT!LOWER MIDDLE LEFT TO UPPER CENTRE_FT TO UPPER RIGHT,LEFT TO UPPER CENTRE,MIDDLE LEFT TO UPPE
R MIDDLE RIGHT,CENTRE TO LOWER MIDDLE RIGHT,LEFT TO LOWER MIDDLE RIGHT,CENTRE TO UPPER MIDDLE RI
GHT,LEFT TO UPPER MIDDLE RIGHT,CENTRE TO UPPER RIGHTgRIGHT BLOCK DIAGONAL UPPER CENTRE TO UPPER 
MIDDLE RIGHT:LEFT TO UPPER MIDDLE RIGHT:CENTRE TO LOWER MIDDLE RIGHT:LEFT TO LOWER MIDDLE RIGHT:
CENTRE TO LOWER RIGHT:MIDDLE LEFT TO LOWER MIDDLE RIGHTgAND RIGHT AND LOWER TRIANGULAR THREE QUA
RTERS BLOCKaLEFT AND LOWER AND RIGHT TRIANGULAR THREE QUARTERS BLOCKaUPPER AND LEFT AND LOWER TR
IANGULAR THREE QUARTERS BLOCKaLEFT AND UPPER AND RIGHT TRIANGULAR THREE QUARTERS BLOCKfTRIANGULA
R ONE QUARTER BLOCKaUPPER TRIANGULAR ONE QUARTER BLOCKaRIGHT TRIANGULAR ONE QUARTER BLOCKaLOWER 
TRIANGULAR ONE QUARTER BLOCKaVERTICAL ONE EIGHTH BLOCK-2!3!4!5!6!7aHORIZONTAL ONE EIGHTH BLOCK-2
%3%4%5%6%7aLEFT AND LOWER ONE EIGHTH BLOCKjUPPER ONE EIGHTH BLOCKaRIGHT AND UPPER ONE EIGHTH BLO
CKkLOWER ONE EIGHTH BLOCKaUPPER AND LOWER ONE EIGHTH BLOCKaHORIZONTAL ONE EIGHTH BLOCK-1358aUPPE
R ONE QUARTER BLOCKgTHREE EIGHTHS BLOCKgFIVE EIGHTHS BLOCKgTHREE QUARTERS BLOCKgSEVEN EIGHTHS BL
OCKaRIGHT ONE QUARTER BLOCKgTHREE EIGHTHS BLOCKgFIVE EIGHTHS BLOCKgTHREE QUARTERS BLOCKgSEVEN EI
GHTHS BLOCKaLEFT HALF MEDIUM SHADEaRIGHT HALF MEDIUM SHADEaUPPER HALF MEDIUM SHADEaLOWER HALF ME
DIUM SHADEaINVERSE MEDIUM SHADEaUPPER HALF BLOCK AND LOWER HALF INVERSE MEDIUM SHADElINVERSE MED
IUM SHADE AND LOWER HALF BLOCK(1FB94)aLEFT HALF INVERSE MEDIUM SHADE AND RIGHT HALF BLOCKaCHECKE
R BOARD FILLaINVERSE CHECKER BOARD FILLaHEAVY HORIZONTAL FILLaUPPER LEFT TO LOWER RIGHT FILLgRIG
HT TO LOWER LEFT FILLgAND LOWER TRIANGULAR HALF BLOCKaLEFT AND RIGHT TRIANGULAR HALF BLOCKaUPPER
 LEFT TRIANGULAR MEDIUM SHADEgRIGHT TRIANGULAR MEDIUM SHADEaLOWER RIGHT TRIANGULAR MEDIUM SHADEg
LEFT TRIANGULAR MEDIUM SHADEaBOX DRAWINGS LIGHT DIAGONAL UPPER CENTRE TO MIDDLE LEFT_TO MIDDLE R
IGHT%MIDDLE LEFT TO LOWER CENTRE<RIGHT TO LOWER CENTRE%UPPER CENTRE TO MIDDLE LEFT TO LOWER CENT
RE_TO MIDDLE RIGHT TO LOWER CENTRE%MIDDLE LEFT TO LOWER CENTRE TO MIDDLE RIGHT_O UPPER CENTRE TO
 MIDDLE RIGHT%UPPER CENTRE TO MIDDLE LEFT AND MIDDLE RIGHT TO LOWER CENTRE_TO MIDDLE RIGHT AND M
IDDLE LEFT TO LOWER CENTRE_TO MIDDLE RIGHT TO LOWER CENTRE TO MIDDLE LEFT_TO MIDDLE LEFT TO LOWE
R CENTRE TO MIDDLE RIGHT%MIDDLE LEFT TO UPPER CENTRE TO MIDDLE RIGHT TO LOWER CENTRE<RIGHT TO UP
PER CENTRE TO MIDDLE LEFT TO LOWER CENTRE%DIAMONDtHORIZONTAL WITH VERTICAL STROKEaARROWHEAD-SHAP
ED POINTERaINVERSE CHECK MARKaLEFT HALF RUNNING MANaRIGHT HALF RUNNING MANaINVERSE DOWNWARDS ARR
OW WITH TIP LEFTWARDSaLEFTWARDS ARROW AND UPPER AND LOWER ONE EIGHTH BLOCKaRIGHTWARDS ARROW AND 
UPPER AND LOWER ONE EIGHTH BLOCKaDOWNWARDS ARROW AND RIGHT ONE EIGHTH BLOCKaUPWARDS ARROW AND RI
GHT ONE EIGHTH BLOCKaLEFT HALF FOLDERaRIGHT HALF FOLDERaVOIDED GREEK CROSSaRIGHT OPEN SQUARED DO
TaNEGATIVE DIAGONAL CROSSsMIDDLE RIGHT TO LOWER CENTREsDIAMONDaWHITE HEAVY SALTIRE WITH ROUNDED 
CORNERSaLEFT THIRD WHITE RIGHT POINTING INDEXaMIDDLE THIRD WHITE RIGHT POINTING INDEXaRIGHT THIR
D WHITE RIGHT POINTING INDEXaNEGATIVE SQUARED QUESTION MARKaSTICK FIGUREm WITH ARMS RAISEDnLEANI
NG LEFTvRIGHTnWITH DRESSaWHITE UP-POINTING CHEVRON(1FBF0)aSEGMENTED DIGIT ZEROqONEqTWOrHREEqFOUR
rIVEqSIXrEVENqEIGHTqNINE(2F800)aCJK COMPATIBILITY IDEOGRAPH-2F800,1,2,3,4,5,6,7,8,9,A,B,C,D,E,F+
10,1,2,3,4,5,6,7,8,9,A,B,C,D,E,F+20,1,2,3,4,5,6,7,8,9,A,B,C,D,E,F+30,1,2,3,4,5,6,7,8,9,A,B,C,D,E
,F+40,1,2,3,4,5,6,7,8,9,A,B,C,D,E,F+50,1,2,3,4,5,6,7,8,9,A,B,C,D,E,F+60,1,2,3,4,5,6,7,8,9,A,B,C,
D,E,F+70,1,2,3,4,5,6,7,8,9,A,B,C,D,E,F+80,1,2,3,4,5,6,7,8,9,A,B,C,D,E,F+90,1,2,3,4,5,6,7,8,9,A,B
,C,D,E,F+A0,1,2,3,4,5,6,7,8,9,A,B,C,D,E,F+B0,1,2,3,4,5,6,7,8,9,A,B,C,D,E,F+C0,1,2,3,4,5,6,7,8,9,
A,B,C,D,E,F+D0,1,2,3,4,5,6,7,8,9,A,B,C,D,E,F+E0,1,2,3,4,5,6,7,8,9,A,B,C,D,E,F+F0,1,2,3,4,5,6,7,8
,9,A,B,C,D,E,F*900,1,2,3,4,5,6,7,8,9,A,B,C,D,E,F+10,1,2,3,4,5,6,7,8,9,A,B,C,D,E,F+20,1,2,3,4,5,6
,7,8,9,A,B,C,D,E,F+30,1,2,3,4,5,6,7,8,9,A,B,C,D,E,F+40,1,2,3,4,5,6,7,8,9,A,B,C,D,E,F+50,1,2,3,4,
5,6,7,8,9,A,B,C,D,E,F+60,1,2,3,4,5,6,7,8,9,A,B,C,D,E,F+70,1,2,3,4,5,6,7,8,9,A,B,C,D,E,F+80,1,2,3
,4,5,6,7,8,9,A,B,C,D,E,F+90,1,2,3,4,5,6,7,8,9,A,B,C,D,E,F+A0,1,2,3,4,5,6,7,8,9,A,B,C,D,E,F+B0,1,
2,3,4,5,6,7,8,9,A,B,C,D,E,F+C0,1,2,3,4,5,6,7,8,9,A,B,C,D,E,F+D0,1,2,3,4,5,6,7,8,9,A,B,C,D,E,F+E0
,1,2,3,4,5,6,7,8,9,A,B,C,D,E,F+F0,1,2,3,4,5,6,7,8,9,A,B,C,D,E,F*A00,1,2,3,4,5,6,7,8,9,A,B,C,D,E,
F+10,1,2,3,4,5,6,7,8,9,A,B,C,D(E0001)aLANGUAGE TAG(E0020)aTAG SPACEeEXCLAMATION MARKeQUOTATION M
ARKeNUMBER SIGNeDOLLAR SIGNePERCENT SIGNeAMPERSANDfPOSTROPHEeLEFT PARENTHESISeRIGHT PARENTHESISe
ASTERISKePLUS SIGNeCOMMAeHYPHEN-MINUSeFULL STOPeSOLIDUSeDIGIT ZEROkONEkTWOlHREEkFOURlIVEkSIXlEVE
NkEIGHTkNINEeCOLONeSEMICOLONeLESS-THAN SIGNeEQUALS SIGNeGREATER-THAN SIGNeQUESTION MARKeCOMMERCI
AL ATeLATIN CAPITAL LETTER AzBzCzDzEzFzGzHzIzJzKzLzMzNzOzPzQzRzSzTzUzVzWzXzYzZfEFT SQUARE BRACKE
TeREVERSE SOLIDUSfIGHT SQUARE BRACKETeCIRCUMFLEX ACCENTeLOW LINEeGRAVE ACCENTeLATIN SMALL LETTER
 AxBxCxDxExFxGxHxIxJxKxLxMxNxOxPxQxRxSxTxUxVxWxXxYxZfEFT CURLY BRACKETeVERTICAL LINEeRIGHT CURLY
 BRACKETeTILDEaCANCEL TAG(E0100)aVARIATION SELECTOR-17u8u9t20u1u2u3u4u5u6u7u8u9t30u1u2u3u4u5u6u7
u8u9t40u1u2u3u4u5u6u7u8u9t50u1u2u3u4u5u6u7u8u9t60u1u2u3u4u5u6u7u8u9t70u1u2u3u4u5u6u7u8u9t80u1u2u
3u4u5u6u7u8u9t90u1u2u3u4u5u6u7u8u9t100v1v2v3v4v5v6v7v8v9u10v1v2v3v4v5v6v7v8v9u20v1v2v3v4v5v6v7v8
v9u30v1v2v3v4v5v6v7v8v9u40v1v2v3v4v5v6v7v8v9u50v1v2v3v4v5v6v7v8v9u60v1v2v3v4v5v6v7v8v9u70v1v2v3v
4v5v6v7v8v9u80v1v2v3v4v5v6v7v8v9u90v1v2v3v4v5v6v7v8v9t200v1v2v3v4v5v6v7v8v9u10v1v2v3v4v5v6v7v8v9
u20v1v2v3v4v5v6v7v8v9u30v1v2v3v4v5v6v7v8v9u40v1v2v3v4v5v6v7v8v9u50v1v2v3v4v5v6"

end ExpectFile.Unicode

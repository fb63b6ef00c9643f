/-
SchemaDoc.Text.Names.From1D000 — the names of the characters from U+1D000 on.

The block holds notation of music and mathematics, and signs of hands.
How it is written is said where it is read.
-/

namespace SchemaDoc.Text.Names

/-- The names from U+1D000 on. -/
def from1D000 : String :=
  "aBYZANTINE MUSICAL SYMBOL PSILI,fDASEIA,gPERISPOMENI,lOXEIA EKFONITIKON,lDIPLI
lVAREIA EKFONITIKON,lDIPLI,mKATHISTI,iSYRMATIKI,jPARAKLITIKI,lYPOKRISIS,a DIPLI,pKREMASTI
iAPESO EKFONITIKON,rEXO EKFONITIKON,pTELEIA,gKENTIMATA,jAPOSTROFOS,a DIPLI,qSYNEVMA,hTHITA
fOLIGON ARCHAION,pGORGON ARCHAION,pPSILON,gCHAMILON,iVATHY,fISON ARCHAION,nKENTIMA ARCHAION
jTA ARCHAION,sSAXIMATA,iPARICHON,iSTAVROS APODEXIA,qOXEIAI ARCHAION,pVAREIAI ARCHAION
qAPODERMA ARCHAION,oTHEMA,iKLASMA,gREVMA,fPIASMA ARCHAION,pTINAGMA,hANATRICHISMA,mSEISMA
fYNAGMA ARCHAION,iMETA STAVROU,uOYRANISMA ARCHAION,sTHEMA,fLEMOI,fDYO,dTRIA,dESSERA,hKRATIMATA
jAPESO EXO NEO,nFTHORA ARCHAION,pIMIFTHORA,jTROMIKON ARCHAION,rKATAVA TROMIKON,pPELASTON,hSIFISTON
jKONTEVMA,iCHOREVMA ARCHAION,rRAPISMA,hPARAKALESMA ARCHAION,pLITIKI ARCHAION,uICHADIN,hNANA
ePETASMA,hKONTEVMA ALLO,nTROMIKON ALLO,nSTRAGGISMATA,mGRONTHISMATA,mISON NEO,iOLIGON NEO,jXEIA NEO
jPETASTI,hKOUFISMA,iPETASTOKOUFISMA,pKRATIMOKOUFISMA,pPELASTON NEO,mKENTIMATA NEO ANO,k NEO ANO
pYPSILI,gAPOSTROFOS NEO,fI SYNDESMOS NEO,yYPORROI,hKRATIMOYPORROON,pELAFRON,hCHAMILI,hMIKRON ISON
lVAREIA NEO,kPIASMA NEO,jSIFISTON NEO,nOMALON,gANTIKENOMA,kLYGISMA,hPARAKLITIKI NEO,kALESMA NEO
pETERON PARAKALESMA,sKYLISMA,hANTIKENOKYLISMA,pTROMIKON NEO,mEKSTREPTON,kSYNAGMA NEO,jRMA
fCHOREVMA NEO,mEPEGERMA,iSEISMA NEO,kXIRON KLASMA,mTROMIKOPSIFISTON,qPSIFISTOLYGISMA
pTROMIKOLYGISMA,hPARAKALESMA,sPSIFISTOPARAKALESMA,tTROMIKOSYNAGMA,oPSIFISTOSYNAGMA,pGORGOSYNTHETON
oARGOSYNTHETON,nETERON ARGOSYNTHETON,uOYRANISMA NEO,nTHEMATISMOS ESO,cXO,k APLOUN,jS KAI APOTHES
qKATAVASMA,jENDOFONON,jYFEN KATO,eANO,iSTAVROS,hKLASMA ANO,kDIPLI ARCHAION,oKRATIMA ARCHAION,hLLO
eNEO,lAPODERMA NEO,kLI,eDIPLI,fTRIPLI,fETRAPLI,iKORONIS,hLEIMMA ENOS CHRONOU,mDYO CHRONON
lTRION CHRONON,mESSARON CHRONON,qIMISEOS CHRONOU,wGORGON NEO ANO,hPARESTIGMENON ARISTERA,iDEXIA
zbDIGORGON,a PARESTIGMENON ARISTERA KATO,eANO,mDEXIA,zdTRIGORGON,jARGON,fIMIDIARGON,kDIARGON
hAGOGI POLI ARGI,jARGOTERI,fI,eMETRIA,eSI,eGORGI,bOTERI,jPOLI GORGI,qMARTYRIA PROTOS ICHOS
mALLI PROTOS ICHOS,rDEYTEROS ICHOS,oALLI DEYTEROS ICHOS,tTRITOS ICHOS,jFONIAS,iETARTOS ICHOS
fLEGETOS ICHOS,wLEGETOS ICHOS,nPLAGIOS ICHOS,wISAKIA TELOUS ICHIMATOS,xAPOSTROFOI TELOUS ICHIMATOS
zcFANEROSIS TETRAFONIAS,lMONOFONIAS,kDIFONIAS,sMARTYRIA VARYS ICHOS,lPROTOVARYS ICHOS
pLAGIOS TETARTOS ICHOS,zgGORTHMIKON N APLOUN,gDIPLOUN,uENARXIS KAI FTHORA VOU,wIMIFONON,eTHORON
kFTHORA ARCHAION DEYTEROU ICHOU,xDIATONIKI PA,cNANA,oNAOS ICHOS,kDIATONIKI DI,mSKLIRON DIATONON DI
tDIATONIKI KE,cZO,cNI KATO,eANO,qMALAKON CHROMA DIFONIAS,iMONOFONIAS,zgHTORA SKLIRON CHROMA VASIS
zbTHORA SKLIRON CHROMA SYNAFI,vNENANO,nCHROA ZYGOS,fKLITON,gSPATHI,mFTHORA I YFESIS TETARTIMORION
wENARMONIOS ANTIFONIA,zcYFESIS TRITIMORION,sDIESIS TRITIMORION,kETARTIMORION,nAPLI DYO DODEKATA
rMONOGRAMMOS TESSERA DODEKATA,zdDIGRAMMOS EX DODEKATA,vTRIGRAMMOS OKTO DODEKATA
zgYFESIS APLI DYO DODEKATA,rMONOGRAMMOS TESSERA DODEKATA,zdDIGRAMMOS EX DODEKATA
vTRIGRAMMOS OKTO DODEKATA,zgGENIKI DIESIS,gYFESIS,nDIASTOLI APLI MIKRI,eEGALI,lDIPLI,fTHESEOS
qSIMANSIS THESEOS,a DISIMOU,hTRISIMOU,hETRASIMOU,sARSEOS,a DISIMOU,hTRISIMOU,hETRASIMOU
zbDIGRAMMA GG,jFTOGGOS OU,mSTIGMA,gARKTIKO PA,cVOU,dGA,cDI,cKE,cZO,cNI,kKENTIMATA NEO MESO
l NEO MESO,jTA NEO KATO,l NEO KATO,pLASMA KATO,lGORGON NEO KATO,+10,zpMUSICAL SYMBOL SINGLE BARLINE
oDOUBLE BARLINE,oFINAL BARLINE,nREVERSE FINAL BARLINE,vDASHED BARLINE,oSHORT BARLINE
nLEFT REPEAT SIGN,qRIGHT REPEAT SIGN,qEPEAT DOTS,lDAL SEGNO,h CAPO,hSEGNO,fCODA,eREPEATED FIGURE-1
b2,b3,rFERMATA,a BELOW,nBREATH MARK,lCAESURA,hBRACE,bKET,hONE-LINE STAFF,oTWO-LINE STAFF
nHREE-LINE STAFF,qFOUR-LINE STAFF,oIVE-LINE STAFF,pSIX-LINE STAFF,kSTRING FRETBOARD
uFOUR-STRING FRETBOARD,vG CLEF,a OTTAVA ALTA,eBASSA,tC CLEF,gF CLEF,a OTTAVA ALTA,eBASSA
tDRUM CLEF-1,b2,+2,lMULTIPLE MEASURE REST,vDOUBLE SHARP,fFLAT,lFLAT UP,cDOWN,jNATURAL UP,cDOWN
mSHARP UP,cDOWN,kQUARTER TONE SHARP,fFLAT,rCOMMON TIME,kUT TIME,iOTTAVA ALTA,eBASSA
mQUINDICESIMA ALTA,eBASSA,sMULTI REST,kWHOLE REST,kHALF REST,jQUARTER REST,mEIGHTH REST
lSIXTEENTH REST,oTHIRTY-SECOND REST,sSIXTY-FOURTH REST,rONE HUNDRED TWENTY-EIGHTH REST,zfX NOTEHEAD
kPLUS NOTEHEAD,nCIRCLE X NOTEHEAD,rSQUARE NOTEHEAD WHITE,fBLACK,vTRIANGLE NOTEHEAD UP WHITE,fBLACK
iLEFT WHITE,fBLACK,kRIGHT WHITE,fBLACK,lDOWN WHITE,fBLACK,kUP RIGHT WHITE,fBLACK
zhMOON NOTEHEAD WHITE,fBLACK,tTRIANGLE-ROUND NOTEHEAD DOWN WHITE,fBLACK,zjPARENTHESIS NOTEHEAD
uVOID NOTEHEAD,nNOTEHEAD BLACK,nULL NOTEHEAD,nCLUSTER NOTEHEAD WHITE,fBLACK,wBREVE,fWHOLE NOTE
kHALF NOTE,jQUARTER NOTE,mEIGHTH NOTE,lSIXTEENTH NOTE,oTHIRTY-SECOND NOTE,sSIXTY-FOURTH NOTE
rONE HUNDRED TWENTY-EIGHTH NOTE,zfCOMBINING STEM,dPRECHGESANG STEM,rTREMOLO-1,b2,b3
tFINGERED TREMOLO-1,b2,b3,sCOMBINING AUGMENTATION DOT,qFLAG-1,b2,b3,b4,b5,qBEGIN BEAM,kEND BEAM
iBEGIN TIE,jEND TIE,hBEGIN SLUR,kEND SLUR,iBEGIN PHRASE,mEND PHRASE,kCOMBINING ACCENT,gSTACCATO
iTENUTO,gSTACCATISSIMO,nMARCATO,a-STACCATO,qACCENT-STACCATO,pLOURE,pARPEGGIATO UP,cDOWN
pCOMBINING DOIT,eRIP,dFLIP,eSMEAR,fBEND,eDOUBLE TONGUE,nTRIPLE TONGUE,xRINFORZANDO,lSUBITO,gZ
bPIANO,fMEZZO,fFORTE,fCRESCENDO,jDECRESCENDO,lGRACE NOTE SLASH,fNO SLASH,tTR,bURN,eINVERTED TURN
nTURN SLASH,fUP,hORNAMENT STROKE-1,b2,b3,b4,b5,b6,b7,b8,b9,b10,b1,sHAUPTSTIMME,lNEBENSTIMME
lEND OF STIMME,nDEGREE SLASH,mCOMBINING DOWN BOW,iUP BOW,gHARMONIC,iSNAP PIZZICATO,yPEDAL MARK
eUP MARK,nHALF PEDAL MARK,pGLISSANDO UP,cDOWN,oWITH FINGERNAILS,qDAMP,a ALL,iMAXIMA,gLONGA,fBREVIS
gSEMIBREVIS WHITE,fBLACK,qMINIMA,a BLACK,mSEMIMINIMA WHITE,fBLACK,qFUSA WHITE,fBLACK
kLONGA PERFECTA REST,nIMPERFECTA REST,vBREVIS REST,lSEMIBREVIS REST,pMINIMA REST,lSEMIMINIMA REST
pTEMPUS PERFECTUM CUM PROLATIONE PERFECTA,iIMPERFECTA,kPERFECTA DIMINUTION-1
zvIMPERFECTUM CUM PROLATIONE PERFECTA,iIMPERFECTA,a DIMINUTION-1,b2,b3,zzhCROIX,fGREGORIAN C CLEF
gF CLEF,qSQUARE B,iVIRGA,fPODATUS,hCLIVIS,gSCANDICUS,jCLIMACUS,iTORCULUS,iPORRECTUS,a FLEXUS
qSCANDICUS FLEXUS,qTORCULUS RESUPINUS,sPES SUBPUNCTIS,oKIEVAN C CLEF,gEND OF PIECE,mFINAL NOTE
kRECITATIVE MARK,pWHOLE NOTE,kHALF NOTE,jQUARTER NOTE STEM DOWN,eUP,uEIGHTH NOTE STEM DOWN,eUP
tFLAT SIGN,qSORI,eKORON,+21,uGREEK VOCAL NOTATION SYMBOL-1,b2,b3,b4,b5,b6,b7,b8,b9,b10,b1,b2,b3,b4
b5,b6,b7,b8,b9,c20,b1,b2,b3,b4,c50,b1,b2,b3,b4,yINSTRUMENTAL NOTATION SYMBOL-1,b2,b4,b5,b7,b8,b11
b2,b3,b4,b7,b8,b9,c23,b4,b5,b6,b7,b9,c30,b2,b6,b7,b8,b9,c40,b2,b3,b5,b7,b8,b9,c50,b1,b2,b3,b4
zmCOMBINING GREEK MUSICAL TRISEME,gETRASEME,jPENTASEME,ziGREEK MUSICAL LEIMMA,+154
uMAYAN NUMERAL ZERO,eONE,dTWO,cHREE,fFOUR,dIVE,eSIX,cEVEN,fEIGHT,fNINE,eTEN,dELEVEN,gTWELVE
fHIRTEEN,iFOURTEEN,hIFTEEN,hSIXTEEN,gEVENTEEN,jEIGHTEEN,iNINETEEN,+12,vONOGRAM FOR EARTH
sDIGRAM FOR HEAVENLY EARTH,nUMAN EARTH,lEARTHLY HEAVEN,fUMAN,i,qTETRAGRAM FOR CENTRE,gFULL CIRCLE
lMIRED,fBARRIER,hKEEPING SMALL,nCONTRARIETY,lASCENT,gOPPOSITION,kBRANCHING OUT
nDEFECTIVENESS OR DISTORTION,zbIVERGENCE,kYOUTHFULNESS,mINCREASE,iPENETRATION,lREACH,fCONTACT
hHOLDING BACK,mWAITING,hFOLLOWING,jADVANCE,hRELEASE,fSISTANCE,kEASE,eJOY,dCONTENTION,kENDEAVOUR
jDUTIES,gCHANGE,gDECISIVENESS,mBOLD RESOLUTION,pPACKING,hLEGION,gCLOSENESS,jKINSHIP,hGATHERING
jSTRENGTH,iPURITY,gFULLNESS,iRESIDENCE,jLAW OR MODEL,mRESPONSE,iGOING TO MEET,nENCOUNTERS,kSTOVE
fGREATNESS,jENLARGEMENT,lPATTERN,hRITUAL,gFLIGHT,gVASTNESS OR WASTING,tCONSTANCY,jMEASURE,hETERNITY
iUNITY,fDIMINISHMENT,mCLOSED MOUTH,mGUARDEDNESS,kATHERING IN,mMASSING,hACCUMULATION,mEMBELLISHMENT
nDOUBT,fWATCH,fSINKING,hINNER,fDEPARTURE,iARKENING,iIMMING,hEXHAUSTION,kSEVERANCE,iTOPPAGE
iHARDNESS,iCOMPLETION,jLOSURE,hFAILURE,hAGGRAVATION,lCOMPLIANCE,kON THE VERGE,mDIFFICULTIES
mLABOURING,jFOSTERING,+9,xCOUNTING ROD UNIT DIGIT ONE,dTWO,cHREE,fFOUR,dIVE,eSIX,cEVEN,fEIGHT,fNINE
pTENS DIGIT ONE,dTWO,cHREE,fFOUR,dIVE,eSIX,cEVEN,fEIGHT,fNINE,zdIDEOGRAPHIC TALLY MARK ONE,dTWO
cHREE,fFOUR,dIVE,zcTALLY MARK ONE,dFIVE,+135,pMATHEMATICAL BOLD CAPITAL A,bB,bC,bD,bE,bF,bG,bH,bI
bJ,bK,bL,bM,bN,bO,bP,bQ,bR,bS,bT,bU,bV,bW,bX,bY,bZ,jSMALL A,bB,bC,bD,bE,bF,bG,bH,bI,bJ,bK,bL,bM,bN
bO,bP,bQ,bR,bS,bT,bU,bV,bW,bX,bY,bZ,mITALIC CAPITAL A,bB,bC,bD,bE,bF,bG,bH,bI,bJ,bK,bL,bM,bN,bO,bP
bQ,bR,bS,bT,bU,bV,bW,bX,bY,bZ,jSMALL A,bB,bC,bD,bE,bF,bG,+1,bI,bJ,bK,bL,bM,bN,bO,bP,bQ,bR,bS,bT,bU
bV,bW,bX,bY,bZ,oBOLD ITALIC CAPITAL A,bB,bC,bD,bE,bF,bG,bH,bI,bJ,bK,bL,bM,bN,bO,bP,bQ,bR,bS,bT,bU
bV,bW,bX,bY,bZ,jSMALL A,bB,bC,bD,bE,bF,bG,bH,bI,bJ,bK,bL,bM,bN,bO,bP,bQ,bR,bS,bT,bU,bV,bW,bX,bY,bZ
tSCRIPT CAPITAL A,+1,bC,bD,+2,bG,+2,bJ,bK,+2,bN,bO,bP,bQ,+1,bS,bT,bU,bV,bW,bX,bY,bZ,jSMALL A,bB,bC
bD,+1,bF,+1,bH,bI,bJ,bK,bL,bM,bN,+1,bP,bQ,bR,bS,bT,bU,bV,bW,bX,bY,bZ,oBOLD SCRIPT CAPITAL A,bB,bC
bD,bE,bF,bG,bH,bI,bJ,bK,bL,bM,bN,bO,bP,bQ,bR,bS,bT,bU,bV,bW,bX,bY,bZ,jSMALL A,bB,bC,bD,bE,bF,bG,bH
bI,bJ,bK,bL,bM,bN,bO,bP,bQ,bR,bS,bT,bU,bV,bW,bX,bY,bZ,tFRAKTUR CAPITAL A,bB,+1,bD,bE,bF,bG,+2,bJ,bK
bL,bM,bN,bO,bP,bQ,+1,bS,bT,bU,bV,bW,bX,bY,+1,jSMALL A,bB,bC,bD,bE,bF,bG,bH,bI,bJ,bK,bL,bM,bN,bO,bP
bQ,bR,bS,bT,bU,bV,bW,bX,bY,bZ,pDOUBLE-STRUCK CAPITAL A,bB,+1,bD,bE,bF,bG,+1,bI,bJ,bK,bL,bM,+1,bO,+3
bS,bT,bU,bV,bW,bX,bY,+1,jSMALL A,bB,bC,bD,bE,bF,bG,bH,bI,bJ,bK,bL,bM,bN,bO,bP,bQ,bR,bS,bT,bU,bV,bW
bX,bY,bZ,vBOLD FRAKTUR CAPITAL A,bB,bC,bD,bE,bF,bG,bH,bI,bJ,bK,bL,bM,bN,bO,bP,bQ,bR,bS,bT,bU,bV,bW
bX,bY,bZ,jSMALL A,bB,bC,bD,bE,bF,bG,bH,bI,bJ,bK,bL,bM,bN,bO,bP,bQ,bR,bS,bT,bU,bV,bW,bX,bY,bZ
uSANS-SERIF CAPITAL A,bB,bC,bD,bE,bF,bG,bH,bI,bJ,bK,bL,bM,bN,bO,bP,bQ,bR,bS,bT,bU,bV,bW,bX,bY,bZ
jSMALL A,bB,bC,bD,bE,bF,bG,bH,bI,bJ,bK,bL,bM,bN,bO,bP,bQ,bR,bS,bT,bU,bV,bW,bX,bY,bZ,hBOLD CAPITAL A
bB,bC,bD,bE,bF,bG,bH,bI,bJ,bK,bL,bM,bN,bO,bP,bQ,bR,bS,bT,bU,bV,bW,bX,bY,bZ,jSMALL A,bB,bC,bD,bE,bF
bG,bH,bI,bJ,bK,bL,bM,bN,bO,bP,bQ,bR,bS,bT,bU,bV,bW,bX,bY,bZ,mITALIC CAPITAL A,bB,bC,bD,bE,bF,bG,bH
bI,bJ,bK,bL,bM,bN,bO,bP,bQ,bR,bS,bT,bU,bV,bW,bX,bY,bZ,jSMALL A,bB,bC,bD,bE,bF,bG,bH,bI,bJ,bK,bL,bM
bN,bO,bP,bQ,bR,bS,bT,bU,bV,bW,bX,bY,bZ,oBOLD ITALIC CAPITAL A,bB,bC,bD,bE,bF,bG,bH,bI,bJ,bK,bL,bM
bN,bO,bP,bQ,bR,bS,bT,bU,bV,bW,bX,bY,bZ,jSMALL A,bB,bC,bD,bE,bF,bG,bH,bI,bJ,bK,bL,bM,bN,bO,bP,bQ,bR
bS,bT,bU,bV,bW,bX,bY,bZ,zfMONOSPACE CAPITAL A,bB,bC,bD,bE,bF,bG,bH,bI,bJ,bK,bL,bM,bN,bO,bP,bQ,bR,bS
bT,bU,bV,bW,bX,bY,bZ,jSMALL A,bB,bC,bD,bE,bF,bG,bH,bI,bJ,bK,bL,bM,bN,bO,bP,bQ,bR,bS,bT,bU,bV,bW,bX
bY,bZ,rITALIC SMALL DOTLESS I,bJ,+2,wBOLD CAPITAL ALPHA,fBETA,eGAMMA,fDELTA,fEPSILON,hZETA,eETA
dTHETA,fIOTA,eKAPPA,fLAMDA,fMU,cNU,cXI,cOMICRON,hPI,cRHO,dTHETA SYMBOL,mSIGMA,fTAU,dUPSILON,hPHI
dCHI,dPSI,dOMEGA,nNABLA,fSMALL ALPHA,fBETA,eGAMMA,fDELTA,fEPSILON,hZETA,eETA,dTHETA,fIOTA,eKAPPA
fLAMDA,fMU,cNU,cXI,cOMICRON,hPI,cRHO,dFINAL SIGMA,lSIGMA,fTAU,dUPSILON,hPHI,dCHI,dPSI,dOMEGA
lPARTIAL DIFFERENTIAL,uEPSILON SYMBOL,oTHETA SYMBOL,mKAPPA SYMBOL,mPHI SYMBOL,kRHO SYMBOL
kPI SYMBOL,oITALIC CAPITAL ALPHA,fBETA,eGAMMA,fDELTA,fEPSILON,hZETA,eETA,dTHETA,fIOTA,eKAPPA,fLAMDA
fMU,cNU,cXI,cOMICRON,hPI,cRHO,dTHETA SYMBOL,mSIGMA,fTAU,dUPSILON,hPHI,dCHI,dPSI,dOMEGA,nNABLA
fSMALL ALPHA,fBETA,eGAMMA,fDELTA,fEPSILON,hZETA,eETA,dTHETA,fIOTA,eKAPPA,fLAMDA,fMU,cNU,cXI
cOMICRON,hPI,cRHO,dFINAL SIGMA,lSIGMA,fTAU,dUPSILON,hPHI,dCHI,dPSI,dOMEGA,lPARTIAL DIFFERENTIAL
uEPSILON SYMBOL,oTHETA SYMBOL,mKAPPA SYMBOL,mPHI SYMBOL,kRHO SYMBOL,kPI SYMBOL
qBOLD ITALIC CAPITAL ALPHA,fBETA,eGAMMA,fDELTA,fEPSILON,hZETA,eETA,dTHETA,fIOTA,eKAPPA,fLAMDA,fMU
cNU,cXI,cOMICRON,hPI,cRHO,dTHETA SYMBOL,mSIGMA,fTAU,dUPSILON,hPHI,dCHI,dPSI,dOMEGA,nNABLA
fSMALL ALPHA,fBETA,eGAMMA,fDELTA,fEPSILON,hZETA,eETA,dTHETA,fIOTA,eKAPPA,fLAMDA,fMU,cNU,cXI
cOMICRON,hPI,cRHO,dFINAL SIGMA,lSIGMA,fTAU,dUPSILON,hPHI,dCHI,dPSI,dOMEGA,lPARTIAL DIFFERENTIAL
uEPSILON SYMBOL,oTHETA SYMBOL,mKAPPA SYMBOL,mPHI SYMBOL,kRHO SYMBOL,kPI SYMBOL
vSANS-SERIF BOLD CAPITAL ALPHA,fBETA,eGAMMA,fDELTA,fEPSILON,hZETA,eETA,dTHETA,fIOTA,eKAPPA,fLAMDA
fMU,cNU,cXI,cOMICRON,hPI,cRHO,dTHETA SYMBOL,mSIGMA,fTAU,dUPSILON,hPHI,dCHI,dPSI,dOMEGA,nNABLA
fSMALL ALPHA,fBETA,eGAMMA,fDELTA,fEPSILON,hZETA,eETA,dTHETA,fIOTA,eKAPPA,fLAMDA,fMU,cNU,cXI
cOMICRON,hPI,cRHO,dFINAL SIGMA,lSIGMA,fTAU,dUPSILON,hPHI,dCHI,dPSI,dOMEGA,lPARTIAL DIFFERENTIAL
uEPSILON SYMBOL,oTHETA SYMBOL,mKAPPA SYMBOL,mPHI SYMBOL,kRHO SYMBOL,kPI SYMBOL
jITALIC CAPITAL ALPHA,fBETA,eGAMMA,fDELTA,fEPSILON,hZETA,eETA,dTHETA,fIOTA,eKAPPA,fLAMDA,fMU,cNU
cXI,cOMICRON,hPI,cRHO,dTHETA SYMBOL,mSIGMA,fTAU,dUPSILON,hPHI,dCHI,dPSI,dOMEGA,nNABLA,fSMALL ALPHA
fBETA,eGAMMA,fDELTA,fEPSILON,hZETA,eETA,dTHETA,fIOTA,eKAPPA,fLAMDA,fMU,cNU,cXI,cOMICRON,hPI,cRHO
dFINAL SIGMA,lSIGMA,fTAU,dUPSILON,hPHI,dCHI,dPSI,dOMEGA,lPARTIAL DIFFERENTIAL,uEPSILON SYMBOL
oTHETA SYMBOL,mKAPPA SYMBOL,mPHI SYMBOL,kRHO SYMBOL,kPI SYMBOL,zhBOLD CAPITAL DIGAMMA
pSMALL DIGAMMA,+2,nDIGIT ZERO,eONE,dTWO,cHREE,fFOUR,dIVE,eSIX,cEVEN,fEIGHT,fNINE
pDOUBLE-STRUCK DIGIT ZERO,eONE,dTWO,cHREE,fFOUR,dIVE,eSIX,cEVEN,fEIGHT,fNINE,ySANS-SERIF DIGIT ZERO
eONE,dTWO,cHREE,fFOUR,dIVE,eSIX,cEVEN,fEIGHT,fNINE,kBOLD DIGIT ZERO,eONE,dTWO,cHREE,fFOUR,dIVE,eSIX
cEVEN,fEIGHT,fNINE,zbMONOSPACE DIGIT ZERO,eONE,dTWO,cHREE,fFOUR,dIVE,eSIX,cEVEN,fEIGHT,fNINE
ziSIGNWRITING HAND-FIST INDEX,kCIRCLE INDEX,lUP INDEX,jOVAL INDEX,kHINGE INDEX,lANGLE INDEX
lFIST INDEX BENT,pCIRCLE INDEX BENT,rFIST THUMB UNDER INDEX BENT,wINDEX RAISED KNUCKLE,oCUPPED
gHINGED,a LOW,vCIRCLE INDEX HINGE,sFIST INDEX MIDDLE,rCIRCLE INDEX MIDDLE,tFIST INDEX MIDDLE BENT
eRAISED KNUCKLES,pHINGED,nUP MIDDLE HINGED,qHINGED MIDDLE UP,qMIDDLE CONJOINED,a INDEX BENT
kMIDDLE BENT,lCUPPED,gHINGED,pROSSED,zaCIRCLE INDEX MIDDLE CROSSED,zcFIST MIDDLE BENT OVER INDEX
wINDEX BENT OVER MIDDLE,qMIDDLE THUMB,xCIRCLE INDEX MIDDLE THUMB
zaFIST INDEX MIDDLE STRAIGHT THUMB BENT,tBENT THUMB STRAIGHT,tTHUMB BENT,kHINGED SPREAD THUMB SIDE
zgUP MIDDLE HINGED THUMB SIDE,eCONJOINED,zhHINGED MIDDLE UP THUMB SIDE
zcMIDDLE UP SPREAD THUMB FORWARD,xTHUMB CUPPED,fIRCLED,hHOOKED,fINGED
zaTHUMB BETWEEN INDEX MIDDLE STRAIGHT,zkINDEX MIDDLE CONJOINED THUMB SIDE,a CONJOINED,jBENT
znMIDDLE THUMB HOOKED INDEX UP,zdINDEX THUMB HOOKED MIDDLE UP,wMIDDLE CONJOINED HINGED THUMB SIDE
zbROSSED THUMB SIDE,rONJOINED THUMB FORWARD,nCUPPED THUMB FORWARD,zsMIDDLE THUMB CUPPED INDEX UP
zdINDEX THUMB CUPPED MIDDLE UP,zdMIDDLE THUMB CIRCLED INDEX UP,cHINGED
ziINDEX THUMB ANGLED OUT MIDDLE UP,nIN MIDDLE UP,tCIRCLED MIDDLE UP,xMIDDLE THUMB CONJOINED HINGED
qANGLED OUT,e,zaMIDDLE THUMB ANGLED OUT INDEX UP,cCROSSED,rINDEX UP
zdINDEX THUMB HOOKED MIDDLE HINGED,zlLAT FOUR FINGERS,a BENT,eHINGED,gCONJOINED,a SPLIT
ziCLAW FOUR FINGERS CONJOINED,zcFIST FOUR FINGERS CONJOINED BENT,zhHINGE FOUR FINGERS CONJOINED
zdFLAT FIVE FINGERS SPREAD,tHEEL FIVE FINGERS SPREAD,yFIVE FINGERS SPREAD FOUR BENT
zeHEEL FIVE FINGERS SPREAD FOUR BENT,zjFIVE FINGERS SPREAD BENT,yHEEL FIVE FINGERS SPREAD BENT
zeFIVE FINGERS SPREAD THUMB FORWARD,znCUP FIVE FINGERS SPREAD,a OPEN
zdHINGE FIVE FINGERS SPREAD OPEN,zfOVAL FIVE FINGERS SPREAD,yFLAT FIVE FINGERS SPREAD HINGED
a THUMB SIDE,kNO THUMB,zl,a BETWEEN PALM FACINGS,uHEEL,eTHUMB SIDE,kHEEL THUMB SIDE,pTHUMB BENT
eFORWARD,nSPLIT INDEX THUMB SIDE,qCENTRE,a THUMB SIDE,a BENT,wLITTLE,rCLAW,a THUMB SIDE,kNO THUMB
iTHUMB FORWARD,sHOOK CURLICUE,j,eCUP OPEN,f,a OPEN THUMB SIDE,pTHUMB SIDE,kOPEN NO THUMB,nNO THUMB
iOPEN THUMB FORWARD,sTHUMB FORWARD,pRLICUE OPEN,f,hIRCLE,gOVAL,a THUMB SIDE,kNO THUMB
iTHUMB FORWARD,sHINGE OPEN,a THUMB FORWARD,t,a SMALL,fOPEN THUMB SIDE,pTHUMB SIDE,kOPEN NO THUMB
nNO THUMB,iTHUMB SIDE TOUCHING INDEX,tBETWEEN MIDDLE RING,zgANGLE,fFIST INDEX MIDDLE RING
wCIRCLE INDEX MIDDLE RING,yHINGE INDEX MIDDLE RING,xANGLE INDEX MIDDLE RING,xHINGE LITTLE
mFIST INDEX MIDDLE RING BENT,eCONJOINED,zhHINGE INDEX MIDDLE RING CONJOINED,ziFIST LITTLE DOWN
a RIPPLE STRAIGHT,iCURVED,nOTHERS CIRCLED,tUP,jTHUMB UNDER LITTLE UP,zbCIRCLE LITTLE UP
qOVAL LITTLE UP,oANGLE LITTLE UP,pFIST LITTLE RAISED KNUCKLE,oBENT,eTOUCHES THUMB,mHUMB
rHINGE LITTLE THUMB,sFIST LITTLE INDEX THUMB,xHINGE LITTLE INDEX THUMB
yANGLE LITTLE INDEX THUMB INDEX THUMB OUT,e,zlFIST LITTLE INDEX,rCIRCLE LITTLE INDEX
tHINGE LITTLE INDEX,sANGLE LITTLE INDEX,sFIST INDEX MIDDLE LITTLE,yCIRCLE INDEX MIDDLE LITTLE
zbHINGE INDEX MIDDLE LITTLE,tRING,kANGLE INDEX MIDDLE LITTLE,zaFIST INDEX MIDDLE CROSS LITTLE
zfCIRCLE INDEX MIDDLE CROSS LITTLE,zhFIST RING DOWN,oHINGE RING DOWN INDEX THUMB HOOK MIDDLE
zoANGLE RING DOWN MIDDLE THUMB INDEX CROSS,zpFIST RING UP,cRAISED KNUCKLE,oLITTLE
qCIRCLE RING LITTLE,sOVAL RING LITTLE,qANGLE RING LITTLE,rFIST RING MIDDLE,a CONJOINED
jRAISED KNUCKLES,wINDEX,fTHUMB,pHOOK RING THUMB,pFIST INDEX RING LITTLE,wCIRCLE INDEX RING LITTLE
xURLICUE INDEX RING LITTLE ON,zeHOOK INDEX RING LITTLE OUT,dIN,cUNDER,zdCUP INDEX RING LITTLE
vHINGE INDEX RING LITTLE,xANGLE INDEX RING LITTLE OUT,e,xFIST MIDDLE DOWN,qHINGE MIDDLE
mFIST MIDDLE UP,oCIRCLE MIDDLE UP,qFIST MIDDLE RAISED KNUCKLE,oUP THUMB SIDE,zaHOOK MIDDLE THUMB
rFIST MIDDLE THUMB LITTLE,mLITTLE,gRING LITTLE,xCIRCLE MIDDLE RING LITTLE
yURLICUE MIDDLE RING LITTLE ON,zdP MIDDLE RING LITTLE,wHINGE MIDDLE RING LITTLE
yANGLE MIDDLE RING LITTLE OUT,dIN,d,yCIRCLE MIDDLE RING LITTLE BENT
zeLAW MIDDLE RING LITTLE CONJOINED,a SIDE,znHOOK MIDDLE RING LITTLE CONJOINED OUT,dIN,d
zhINGE INDEX HINGED,sFIST INDEX THUMB SIDE,vHINGE INDEX THUMB SIDE
wFIST INDEX THUMB SIDE THUMB DIAGONAL,iCONJOINED,jBENT,kINDEX BENT,kBOTH BENT,jINDEX HINGE
qFORWARD INDEX STRAIGHT,iBENT,sHOOK,eCURLICUE,fVE THUMB INSIDE
zkCLAW INDEX THUMB CURVE THUMB INSIDE,zkFIST INDEX THUMB CURVE THUMB UNDER,qIRCLE,xCUP INDEX THUMB
a OPEN,uHINGE INDEX THUMB OPEN,eLARGE,g,a SMALL,xANGLE INDEX THUMB OUT,dIN,d,rFIST THUMB,a HEEL
eSIDE DIAGONAL,iCONJOINED,jBENT,jFORWARD,hBETWEEN INDEX MIDDLE,mMIDDLE RING,lRING LITTLE
tUNDER TWO FINGERS,rOVER TWO FINGERS,qUNDER THREE FINGERS,nFOUR FINGERS,sOVER FOUR RAISED KNUCKLES
zh,a HEEL,oTOUCH SINGLE,gMULTIPLE,iBETWEEN,nGRASP SINGLE,gMULTIPLE,iBETWEEN,nSTRIKE SINGLE
gMULTIPLE,iBETWEEN,oBRUSH SINGLE,gMULTIPLE,iBETWEEN,nRUB SINGLE,gMULTIPLE,iBETWEEN,lSURFACE SYMBOLS
hBETWEEN,oQUEEZE LARGE SINGLE,mSMALL SINGLE,mLARGE MULTIPLE,oSMALL MULTIPLE,nEQUENTIAL
sFLICK LARGE SINGLE,mSMALL SINGLE,mLARGE MULTIPLE,oSMALL MULTIPLE,nEQUENTIAL
qSQUEEZE FLICK ALTERNATING,zaMOVEMENT-HINGE UP DOWN LARGE,fSMALL,kSEQUENTIAL,nDOWN SEQUENTIAL
pUP DOWN ALTERNATING LARGE,fSMALL,zaSIDE TO SIDE SCISSORS,zcWALLPLANE FINGER CONTACT
yFLOORPLANE FINGER CONTACT,zaWALLPLANE SINGLE STRAIGHT SMALL,fMEDIUM,gLARGE,aST,qWRIST FLEX
rDOUBLE STRAIGHT,iWRIST FLEX,kALTERNATING,a WRIST FLEX,zeCROSS,fTRIPLE STRAIGHT MOVEMENT
rWRIST FLEX,kALTERNATING,a WRIST FLEX,zeBEND SMALL,fMEDIUM,gLARGE,kCORNER SMALL,fMEDIUM,gLARGE
fROTATION,oHECK SMALL,fMEDIUM,gLARGE,lBOX SMALL,fMEDIUM,gLARGE,jZIGZAG SMALL,fMEDIUM,gLARGE
mPEAKS SMALL,fMEDIUM,gLARGE,zfTRAVEL-WALLPLANE ROTATION-WALLPLANE SINGLE,gDOUBLE,gALTERNATING
vFLOORPLANE SINGLE,gDOUBLE,gALTERNATING,zgSHAKING,hARM SPIRAL SINGLE,gDOUBLE,gTRIPLE
zjMOVEMENT-DIAGONAL AWAY SMALL,fMEDIUM,gLARGE,aST,mTOWARDS SMALL,fMEDIUM,gLARGE,aST
pBETWEEN AWAY SMALL,fMEDIUM,gLARGE,aST,mTOWARDS SMALL,fMEDIUM,gLARGE,aST
zhFLOORPLANE SINGLE STRAIGHT SMALL,fMEDIUM,gLARGE,aST,qWRIST FLEX,rDOUBLE STRAIGHT,iWRIST FLEX
kALTERNATING,a WRIST FLEX,zeCROSS,fTRIPLE STRAIGHT MOVEMENT,rWRIST FLEX,kALTERNATING MOVEMENT
iWRIST FLEX,zeBEND,eCORNER SMALL,fMEDIUM,gLARGE,lHECK,fBOX SMALL,fMEDIUM,gLARGE,jZIGZAG SMALL
fMEDIUM,gLARGE,mPEAKS SMALL,fMEDIUM,gLARGE,zgTRAVEL-FLOORPLANE ROTATION-FLOORPLANE SINGLE,gDOUBLE
gALTERNATING,wWALLPLANE SINGLE,gDOUBLE,gALTERNATING,zfSHAKING
zaMOVEMENT-WALLPLANE CURVE QUARTER SMALL,fMEDIUM,gLARGE,aST,pHALF-CIRCLE SMALL,fMEDIUM,gLARGE,aST
tTHREE-QUARTER CIRCLE SMALL,fMEDIUM,ziHUMP SMALL,fMEDIUM,gLARGE,kLOOP SMALL,fMEDIUM,gLARGE
fSMALL DOUBLE,rWAVE CURVE DOUBLE SMALL,fMEDIUM,gLARGE,mTRIPLE SMALL,fMEDIUM,gLARGE
xCURVE THEN STRAIGHT,oD CROSS SMALL,fMEDIUM,znROTATION-WALLPLANE SINGLE,gDOUBLE,gALTERNATE
zdMOVEMENT-WALLPLANE SHAKING,hCURVE HITTING FRONT WALL,yHUMP HITTING FRONT WALL
xLOOP HITTING FRONT WALL,xWAVE HITTING FRONT WALL,zrROTATION-WALLPLANE SINGLE HITTING FRONT WALL
zaDOUBLE HITTING FRONT WALL,zaALTERNATING HITTING FRONT WALL
zyMOVEMENT-WALLPLANE CURVE HITTING CHEST,tHUMP HITTING CHEST,sLOOP HITTING CHEST
sWAVE HITTING CHEST,zmROTATION-WALLPLANE SINGLE HITTING CHEST,uDOUBLE HITTING CHEST
uALTERNATING HITTING CHEST,ztMOVEMENT-WALLPLANE WAVE DIAGONAL PATH SMALL,fMEDIUM,gLARGE
zjFLOORPLANE CURVE HITTING CEILING SMALL,fLARGE,zcHUMP HITTING CEILING SMALL DOUBLE,mLARGE DOUBLE
mSMALL TRIPLE,mLARGE TRIPLE,ziLOOP HITTING CEILING SMALL SINGLE,mLARGE SINGLE,mSMALL DOUBLE
mLARGE DOUBLE,ziWAVE HITTING CEILING SMALL,fLARGE,zvROTATION-FLOORPLANE SINGLE HITTING CEILING
wDOUBLE HITTING CEILING,wALTERNATING HITTING CEILING
zwMOVEMENT-FLOORPLANE CURVE HITTING FLOOR SMALL,fLARGE,zaHUMP HITTING FLOOR SMALL DOUBLE
mLARGE DOUBLE,mTRIPLE SMALL TRIPLE,mLARGE TRIPLE,znLOOP HITTING FLOOR SMALL SINGLE,mLARGE SINGLE
mSMALL DOUBLE,mLARGE DOUBLE,zgWAVE HITTING FLOOR SMALL,fLARGE
ztROTATION-FLOORPLANE SINGLE HITTING FLOOR,uDOUBLE HITTING FLOOR,uALTERNATING HITTING FLOOR
zuMOVEMENT-FLOORPLANE CURVE SMALL,fMEDIUM,gLARGE,aST,hCOMBINED,oHUMP SMALL,kLOOP SMALL,kWAVE SNAKE
eMALL,fLARGE,zfROTATION-FLOORPLANE SINGLE,gDOUBLE,gALTERNATING
zgMOVEMENT-FLOORPLANE SHAKING PARALLEL,zcWALLPLANE ARM CIRCLE SMALL SINGLE,mMEDIUM SINGLE
nSMALL DOUBLE,mMEDIUM DOUBLE,zjFLOORPLANE ARM CIRCLE HITTING WALL SMALL SINGLE,mMEDIUM SINGLE
nLARGE SINGLE,mSMALL DOUBLE,mMEDIUM DOUBLE,nLARGE DOUBLE,zwWALLPLANE WRIST CIRCLE FRONT SINGLE
gDOUBLE,zkFLOORPLANE WRIST CIRCLE HITTING WALL SINGLE,gDOUBLE,zsWALLPLANE FINGER CIRCLES SINGLE
gDOUBLE,zgFLOORPLANE FINGER CIRCLES HITTING WALL SINGLE,gDOUBLE,zzeDYNAMIC ARROWHEAD SMALL,fLARGE
pFAST,eSLOW,eTENSE,fRELAXED,hSIMULTANEOUS,a ALTERNATING,yEVERY OTHER TIME,qGRADUAL,pHEAD,a RIM
dMOVEMENT-WALLPLANE STRAIGHT,iTILT,oFLOORPLANE STRAIGHT,tWALLPLANE CURVE,pFLOORPLANE CURVE,r CIRCLE
uFACE DIRECTION POSITION NOSE FORWARD TILTING,pUP OR DOWN,a TILTING,zwEYEBROWS STRAIGHT UP,cNEUTRAL
hDOWN,wDREAMY EYEBROWS NEUTRAL DOWN,mDOWN NEUTRAL,mUP NEUTRAL,kNEUTRAL UP,zbFOREHEAD NEUTRAL
hCONTACT,hWRINKLED,rEYES OPEN,eSQUEEZED,iCLOSED,i BLINK SINGLE,gMULTIPLE,pS HALF OPEN,jWIDE OPEN
jHALF CLOSED,lWIDENING MOVEMENT,t WINK,fLASHES UP,cDOWN,eFLUTTERING,rGAZE-WALLPLANE STRAIGHT
a DOUBLE,gALTERNATING,zfFLOORPLANE STRAIGHT,a DOUBLE,gALTERNATING,zgWALLPLANE CURVED
qFLOORPLANE CURVED,rWALLPLANE CIRCLING,zbCHEEKS PUFFED,gNEUTRAL,hSUCKED,nTENSE CHEEKS HIGH,eMIDDLE
gLOW,qEARS,eNOSE NEUTRAL,hCONTACT,hWRINKLES,hIGGLES,mAIR BLOWING OUT,lSUCKING IN
kBLOW SMALL ROTATIONS,uSUCK SMALL ROTATIONS,yBREATH INHALE,gEXHALE,nMOUTH CLOSED NEUTRAL,hFORWARD
hCONTACT,oSMILE,a WRINKLED,iOPEN,kFROWN,a WRINKLED,iOPEN,kOPEN CIRCLE,gFORWARD,hWRINKLED,iOVAL
a WRINKLED,iYAWN,jRECTANGLE,a WRINKLED,iYAWN,tKISS,a FORWARD,hWRINKLED,nTENSE,a FORWARD,hSUCKED
sLIPS PRESSED TOGETHER,s LOWER OVER UPPER,qUPPER OVER LOWER,uMOUTH CORNERS,hWRINKLES SINGLE,gDOUBLE
vTONGUE STICKING OUT FAR,qLICKING LIPS,mTIP BETWEEN LIPS,mTOUCHING INSIDE MOUTH
zaINSIDE MOUTH RELAXED,uMOVES AGAINST CHEEK,tCENTRE STICKING OUT,mINSIDE MOUTH,zaEETH,a MOVEMENT
iON TONGUE,a MOVEMENT,pLIPS,a MOVEMENT,qBITE LIPS,pMOVEMENT-WALLPLANE JAW,nFLOORPLANE JAW,xNECK
eHAIR,eEXCITEMENT,kSHOULDER HIP SPINE,fPOSITIONS,wWALLPLANE SHOULDER HIP MOVE
zcFLOORPLANE SHOULDER HIP MOVE,zdSHOULDER TILTING FROM WAIST,zcTORSO-WALLPLANE STRAIGHT STRETCH
qCURVED BEND,vFLOORPLANE TWISTING,zaUPPER BODY TILTING FROM HIP JOINTS,zjLIMB COMBINATION,lLENGTH-1
b2,b3,b4,b5,b6,b7,nFINGER,gLOCATION-WALLPLANE SPACE,pFLOORPLANE SPACE,r HEIGHT,gWIDTH,fDEPTH
fHEAD NECK,jTORSO,fLIMBS DIGITS,vCOMMA,fFULL STOP,jSEMICOLON,jCOLON,fPARENTHESIS,+15
lFILL MODIFIER-2,b3,b4,b5,b6,+1,pROTATION MODIFIER-2,b3,b4,b5,b6,b7,b8,b9,b10,b1,b2,b3,b4,b5,b6
+1104,zhLATIN SMALL LETTER FENG DIGRAPH WITH TRILL,xREVERSED SCRIPT G
zfLETTER SMALL CAPITAL TURNED G,zeSMALL LETTER REVERSED K,xLETTER SMALL CAPITAL L WITH BELT
zhSMALL LETTER LEZH WITH RETROFLEX HOOK,yTURNED Y WITH BELT,sREVERSED ENG
mTURNED R WITH LONG LEG AND RETROFLEX HOOK,zp WITH HOOK AND RETROFLEX HOOK
zsLETTER RETROFLEX CLICK WITH RETROFLEX HOOK,zrSMALL LETTER ESH WITH DOUBLE BAR,a AND CURL
zdTURNED T WITH CURL,zgLETTER INVERTED GLOTTAL STOP WITH CURL,zgSTRETCHED C WITH CURL
uMALL CAPITAL TURNED K,zeSMALL LETTER L WITH FISHHOOK,pDEZH DIGRAPH WITH PALATAL HOOK
zfL WITH BELT AND PALATAL HOOK,zdENG WITH PALATAL HOOK,vTURNED R WITH PALATAL HOOK
zbR WITH FISHHOOK AND PALATAL HOOK,zhTESH DIGRAPH WITH PALATAL HOOK,zfEZH WITH PALATAL HOOK
vDEZH DIGRAPH WITH RETROFLEX HOOK,zhI WITH STROKE AND RETROFLEX HOOK,zhO WITH RETROFLEX HOOK
vTESH DIGRAPH WITH RETROFLEX HOOK,zhC WITH RETROFLEX HOOK,vS WITH CURL,+225
zfCOMBINING GLAGOLITIC LETTER AZU,dBUKY,eVEDE,eGLAGOLI,hDOBRO,fYESTU,fZHIVETE,+1,gEMLJA,gIZHE
dNITIAL IZHE,l,bDJERVI,gKAKO,eLJUDIJE,hMYSLITE,hNASHI,fONU,dPOKOJI,gRITSI,fSLOVO,fTVRIDO,gUKU
dFRITU,fHERU,+2,eSHTA,eTSI,dCHRIVI,gSHA,dYERU,bI,dATI,+1,dU,cSMALL YUS,+1,jYO,cIOTATED SMALL YUS
rBIG YUS,hIOTATED BIG YUS,pFITA,+213,zhNYIAKENG PUACHUE HMONG LETTER MA,cTSA,dNTA,dTA,cHA,cNA,cXA
cNKA,dCA,cLA,cSA,cZA,cNCA,cTSA,eKA,cDA,cNYA,cRA,dVA,cNTXA,eTXA,dFA,cRA,cQA,cYA,cNQA,dPA,cXYA,dNPA
dDLA,dNPLA,eHAH,dMLA,dPLA,dGA,cRRA,dA,aA,cI,bU,bO,aO,cE,aE,cW,+3,iTONE-B,bM,bJ,bV,bS,bG,bD
gSIGN FOR PERSON,gTHING,fLOCATION,iANIMAL,gINVERTEBRATE,qXW XW,jYLLABLE LENGTHENER,+2,tDIGIT ZERO
eONE,dTWO,cHREE,fFOUR,dIVE,eSIX,cEVEN,fEIGHT,fNINE,+4,kLOGOGRAM NYAJ,nCIRCLED CA,+320
ziTOTO LETTER PA,cBA,cTA,cDA,cKA,cGA,cMA,cNA,bGA,dSA,cCHA,dYA,cWA,cJA,cHA,cRA,cLA,cI,bBREATHY I,jIU
cBREATHY IU,kU,bE,bBREATHY E,jEO,cBREATHY EO,kO,bAE,cBREATHY AE,kA,iSIGN RISING TONE,+17
vWANCHO LETTER AA,b,bBA,cCA,cDA,cGA,cYA,cPHA,dLA,cNA,cPA,cTA,bHA,dFA,cSA,bHA,dJA,cZA,cWA,cVA,cKA,cO
bAU,cRA,cMA,cKHA,dHA,cE,bI,bNGA,dU,bLLHA,eTSA,cRA,dONG,dAANG,dNG,dING,dON,cEN,cAAN,dNYA,dUEN,dYIH
kTONE TUP,aNI,fKOI,aNI,kDIGIT ZERO,eONE,dTWO,cHREE,fFOUR,dIVE,eSIX,cEVEN,fEIGHT,fNINE,+5,kNGUN SIGN
+1248,qETHIOPIC SYLLABLE HHYA,bU,bI,bAA,cEE,b,bO,+1,eGURAGE HHWA,lHHWI,bEE,b,+1,eGURAGE MWI,bEE,+1
eQWI,bEE,b,dBWI,bEE,eKWI,bEE,b,dGWI,bEE,b,dFWI,bEE,ePWI,bEE,+1,zeMENDE KIKAKUI SYLLABLE M001 KI
e2 KA,e3 KU,f65 KEE,g95 KE,f76 KOO,g48 KO,g179 KUA,h004 WI,e5 WA,e6 WU,g126 WEE,g18 WE,e4 WOO
h045 WO,g194 WUI,g43 WEI,h061 WVI,g49 WVA,h139 WVE,h007 MIN,f8 MAN,f9 MUN,g59 MEN,g94 MON,h154 MUAN
h89 MUEN,i010 BI,e1 BA,e2 BU,g150 BEE,h097 BE,g103 BOO,g38 BO,g013 I,d4 A,d5 U,f163 EE,f00 E,e65 OO
f47 O,e37 EI,e1 IN,e5 IN,f95 AN,f78 EN,g019 SI,f20 SA,e1 SU,g162 SEE,g16 SE,f36 SOO,h079 SO
g196 SIA,h025 LI,e6 LA,e7 LU,f84 LEE,g73 LE,f54 LOO,h153 LO,f10 LONG LE,l016 DI,e7 DA,e8 DU,f89 DEE
h180 DOO,f1 DO,g022 TI,e3 TA,e4 TU,f91 TEE,g55 TE,g104 TOO,h069 TO,f28 JI,e9 JA,f30 JU,g157 JEE
g13 JE,f60 JOO,h063 JO,g175 LONG JO,l031 YI,e2 YA,e3 YU,g109 YEE,h080 YE,g141 YOO,g21 YO,g034 FI
e5 FA,e6 FU,f78 FEE,f5 FE,g133 FOO,h088 FO,g197 FUA,g01 FAN,h037 NIN,f8 NAN,f9 NUN,h117 NEN,g69 NON
g76 HI,g041 HA,g186 HU,g040 HEE,g96 HE,f42 HOO,h140 HO,g083 HEEI,i128 HOOU,i053 HIN,h130 HAN
h087 HUN,g52 HEN,h193 HON,h046 HUAN,h90 NGGI,h43 NGGA,h82 NGGU,i115 NGGEE,i46 NGGE,h56 NGGOO
i20 NGGO,h59 NGGAA,i27 NGGUA,j086 LONG NGGE,n106 LONG NGGOO,n83 LONG NGGO,m55 GI,f11 GA,f68 GU
f90 GEE,g66 GUEI,g7 GUAN,h84 NGEN,i057 NGON,i177 NGUAN,j068 PI,f99 PA,f50 PU,f81 PEE,g51 PE
g102 POO,h066 PO,g145 MBI,h062 MBA,h122 MBU,h047 MBEE,i188 MBEE,i072 MBE,h172 MBOO,g4 MBO,g87 MBUU
h61 LONG MBE,l05 LONG MBOO,m42 LONG MBO,l32 KPI,h092 KPA,g74 KPU,g44 KPEE,i108 KPE,g12 KPOO,h58 KPO
g24 GBI,h056 GBA,h148 GBU,h093 GBEE,i107 GBE,h071 GBOO,g0 GBO,h171 RA,f23 NDI,f9 NDA,f5 NDU
g91 NDEE,h19 NDE,h067 NDOO,g4 NDO,h152 NJA,g92 NJU,g49 NJEE,h34 NJOO,h82 VI,e5 VA,f51 VU,f73 VEE
h085 VE,g144 VOO,h077 VO,g164 NYIN,i058 NYAN,i170 NYUN,i098 NYEN,h60 NYON,+2,sDIGIT ONE,dTWO,cHREE
fFOUR,dIVE,eSIX,cEVEN,fEIGHT,fNINE,kCOMBINING NUMBER TEENS,dNS,eHUNDREDS,iTHOUSANDS,iEN THOUSANDS
nHUNDRED THOUSANDS,rMILLIONS,+41,zoADLAM CAPITAL LETTER ALIF,eDAALI,fLAAM,eMIIM,eBA,cSINNYIIYHE,kPE
cBHE,dRA,cE,bFA,cI,bO,bDHA,dYHE,dWAW,dNUN,dKAF,dYA,cU,bJIIM,eCHI,dHA,cQAAF,eGA,cNYA,dTU,cNHA,dVA
cKHA,dGBE,dZAL,dKPO,dSHA,sSMALL LETTER ALIF,eDAALI,fLAAM,eMIIM,eBA,cSINNYIIYHE,kPE,cBHE,dRA,cE,bFA
cI,bO,bDHA,dYHE,dWAW,dNUN,dKAF,dYA,cU,bJIIM,eCHI,dHA,cQAAF,eGA,cNYA,dTU,cNHA,dVA,cKHA,dGBE,dZAL
dKPO,dSHA,qALIF LENGTHENER,pVOWEL LENGTHENER,qGEMINATION MARK,pHAMZA,fCONSONANT MODIFIER
sGEMINATE CONSONANT MODIFIER,zcNUKTA,eASALIZATION MARK,+4,rDIGIT ZERO,eONE,dTWO,cHREE,fFOUR,dIVE
eSIX,cEVEN,fEIGHT,fNINE,+4,kINITIAL EXCLAMATION MARK,qQUESTION MARK,+785,zcINDIC SIYAQ NUMBER ONE
dTWO,cHREE,fFOUR,dIVE,eSIX,cEVEN,fEIGHT,fNINE,eTEN,cWENTY,fHIRTY,gFORTY,eIFTY,fSIXTY,eEVENTY
hEIGHTY,gNINETY,gONE HUNDRED,lTWO HUNDRED,kHREE HUNDRED,nFOUR HUNDRED,lIVE HUNDRED,mSIX HUNDRED
kEVEN HUNDRED,nEIGHT HUNDRED,nNINE HUNDRED,mONE THOUSAND,mTWO THOUSAND,lHREE THOUSAND
oFOUR THOUSAND,mIVE THOUSAND,nSIX THOUSAND,lEVEN THOUSAND,oEIGHT THOUSAND,oNINE THOUSAND
nTEN THOUSAND,lWENTY THOUSAND,oHIRTY THOUSAND,pFORTY THOUSAND,nIFTY THOUSAND,oSIXTY THOUSAND
nEVENTY THOUSAND,qEIGHTY THOUSAND,pNINETY THOUSAND,pLAKH,aAN,nLAKH MARK,jNUMBER KAROR,aAN
hPREFIXED ONE,dTWO,cHREE,fFOUR,dIVE,eSIX,cEVEN,fEIGHT,fNINE,uPLACEHOLDER,lFRACTION ONE QUARTER
hHALF,iTHREE QUARTERS,xRUPEE MARK,kNUMBER ALTERNATE ONE,dTWO,cEN THOUSAND,zeALTERNATE LAKH MARK,+76
zgOTTOMAN SIYAQ NUMBER ONE,dTWO,cHREE,fFOUR,dIVE,eSIX,cEVEN,fEIGHT,fNINE,eTEN,cWENTY,fHIRTY,gFORTY
eIFTY,fSIXTY,eEVENTY,hEIGHTY,gNINETY,gONE HUNDRED,lTWO HUNDRED,kHREE HUNDRED,nFOUR HUNDRED
lIVE HUNDRED,mSIX HUNDRED,kEVEN HUNDRED,nEIGHT HUNDRED,nNINE HUNDRED,mONE THOUSAND,mTWO THOUSAND
lHREE THOUSAND,oFOUR THOUSAND,mIVE THOUSAND,nSIX THOUSAND,lEVEN THOUSAND,oEIGHT THOUSAND
oNINE THOUSAND,nTEN THOUSAND,lWENTY THOUSAND,oHIRTY THOUSAND,pFORTY THOUSAND,nIFTY THOUSAND
oSIXTY THOUSAND,nEVENTY THOUSAND,qEIGHTY THOUSAND,pNINETY THOUSAND,wMARRATAN,iALTERNATE NUMBER TWO
cHREE,fFOUR,dIVE,eSIX,cEVEN,fEIGHT,fNINE,eTEN,dFOUR HUNDRED,mSIX HUNDRED,lTWO THOUSAND,lEN THOUSAND
zeFRACTION ONE HALF,eSIXTH,+194,zhARABIC MATHEMATICAL ALEF,eBEH,dJEEM,eDAL,+1,dWAW,dZAIN,eHAH,dTAH
dYEH,dKAF,dLAM,dMEEM,eNOON,eSEEN,eAIN,dFEH,dSAD,dQAF,dREH,dSHEEN,fTEH,cHEH,eKHAH,eTHAL,eDAD,dZAH
dGHAIN,fDOTLESS BEH,dNOON,eFEH,dQAF,+1,lINITIAL BEH,dJEEM,+1,eHEH,+2,cAH,+1,dYEH,dKAF,dLAM,dMEEM
eNOON,eSEEN,eAIN,dFEH,dSAD,dQAF,+1,dSHEEN,fTEH,cHEH,eKHAH,+1,eDAD,+1,dGHAIN,+6,nTAILED JEEM,+4,eHAH
+1,dYEH,+1,dLAM,+1,dNOON,eSEEN,eAIN,+1,dSAD,dQAF,+1,dSHEEN,+2,fKHAH,+1,eDAD,+1,dGHAIN,+1
fDOTLESS NOON,+1,eQAF,+1,sSTRETCHED BEH,dJEEM,+1,eHEH,+2,cAH,dTAH,dYEH,dKAF,+1,dMEEM,eNOON,eSEEN
eAIN,dFEH,dSAD,dQAF,+1,dSHEEN,fTEH,cHEH,eKHAH,+1,eDAD,dZAH,dGHAIN,fDOTLESS BEH,+1,dFEH,+1
vLOOPED ALEF,eBEH,dJEEM,eDAL,dHEH,dWAW,dZAIN,eHAH,dTAH,dYEH,+1,dLAM,dMEEM,eNOON,eSEEN,eAIN,dFEH
dSAD,dQAF,dREH,dSHEEN,fTEH,cHEH,eKHAH,eTHAL,eDAD,dZAH,dGHAIN,+5,mDOUBLE-STRUCK BEH,dJEEM,eDAL,+1
dWAW,dZAIN,eHAH,dTAH,dYEH,+1,dLAM,dMEEM,eNOON,eSEEN,eAIN,dFEH,dSAD,dQAF,dREH,dSHEEN,fTEH,cHEH,eKHAH
eTHAL,eDAD,dZAH,dGHAIN,+52,tOPERATOR MEEM WITH HAH WITH TATWEEL,zbHAH WITH DAL"

end SchemaDoc.Text.Names
